import DependencyEvidence.Proofs.Merge.Fold

/-!
# References of survivors

Which references a survivor gets from its group. Folding shares references between two files of the same known content,
and it compares the two sides of one step only. So the references of a member reach the survivor if it has the content
of the survivor and so have all members on the way, which are those that stand between the two in the working set
(`Reaches`). Members behind the survivor have nothing on their way; a member before it can be cut off.

`Shared` is the invariant of the fold of a group, and `mem_references_survivor` says what it comes to.
-/

namespace DependencyEvidence

/-! ## One merge -/

theorem References.mem_extend {r : References} {names : List String} {x : String} :
    x ∈ (r.extend names).names ↔ x ∈ r.names ∨ x ∈ names := by
  induction names generalizing r with
  | nil => simp [extend]
  | cons y rest ih =>
    show x ∈ ((r.insert y).extend rest).names ↔ _
    rw [ih, insert, mem_insertName, List.mem_cons]
    tauto

theorem Dependency.mem_references_absorb {p s : Dependency} {x : String} :
    x ∈ (p.absorb s).references.names ↔
      x ∈ p.references.names ∨ (p.sha256 ≠ "" ∧ p.sha256 = s.sha256 ∧ x ∈ s.references.names) := by
  rw [absorb]
  split
  · next h => rw [References.union, References.mem_extend]; tauto
  · next h => tauto

theorem MergeTree.sha256_survivor (t : MergeTree Placed) : t.survivor.sha256 = t.root.2.sha256 :=
  congrArg FileKey.sha256 t.key_survivor

/-! ## The way to the survivor -/

/-- Whether the references of a member reach the one that survives: it is that one, or it has the same known content, and
so has every member between the two. -/
def Reaches (l : List Placed) (m r : Placed) : Prop :=
  m = r ∨ (m.2.sha256 ≠ "" ∧ m.2.sha256 = r.2.sha256 ∧
    ∀ k ∈ l, m.1 < k.1 → k.1 < r.1 → k.2.sha256 = r.2.sha256)

section Reaches

variable {l : List Placed} {m r e : Placed}

/-- A further member at the end is on no one's way to a member before it. -/
theorem reaches_concat (hr : r.1 < e.1) : Reaches (l ++ [e]) m r ↔ Reaches l m r := by
  unfold Reaches
  refine or_congr_right (and_congr_right fun _ => and_congr_right fun _ => ⟨fun h k hk => ?_, fun h k hk => ?_⟩)
  · exact h k (List.mem_append_left _ hk)
  · rcases List.mem_append.1 hk with hk | hk
    · exact h k hk
    · obtain rfl := List.mem_singleton.1 hk
      exact fun _ hlt => absurd hr hlt.le.not_gt

/-- Nothing is on the way to a member that stands before. -/
theorem reaches_back (hr : r.1 < e.1) : Reaches l e r ↔ r.2.sha256 ≠ "" ∧ r.2.sha256 = e.2.sha256 := by
  constructor
  · rintro (rfl | ⟨hknown, hsame, -⟩)
    · exact absurd hr (lt_irrefl _)
    · exact ⟨hsame ▸ hknown, hsame.symm⟩
  · rintro ⟨hknown, hsame⟩
    exact .inr ⟨hsame ▸ hknown, hsame.symm, fun k _ hek hkr => absurd (hek.trans hkr) hr.le.not_gt⟩

/-- The way to a member at the end leads over the last one before it. -/
theorem reaches_last (hr : r ∈ l) (hlast : ∀ k ∈ l, k.1 ≤ r.1) (hl : ∀ k ∈ l, k.1 < e.1)
    (hn : (l.map Prod.fst).Nodup) (hm : m ∈ l) :
    Reaches (l ++ [e]) m e ↔ e.2.sha256 ≠ "" ∧ e.2.sha256 = r.2.sha256 ∧ Reaches l m r := by
  have hme : m ≠ e := fun he => absurd (hl m hm) (he ▸ lt_irrefl _)
  constructor
  · rintro (he | ⟨hknown, hsame, hway⟩)
    · exact absurd he hme
    · rcases (hlast m hm).eq_or_lt with he | hlt
      · obtain rfl := eq_of_fst_eq hn hm hr he
        exact ⟨hsame ▸ hknown, hsame.symm, .inl rfl⟩
      · have hre : r.2.sha256 = e.2.sha256 := hway r (List.mem_append_left _ hr) hlt (hl r hr)
        refine ⟨hsame ▸ hknown, hre.symm, .inr ⟨hknown, hsame.trans hre.symm, fun k hk hmk _ => ?_⟩⟩
        rw [hway k (List.mem_append_left _ hk) hmk (hl k hk), hre]
  · rintro ⟨hknown, hsame, rfl | ⟨-, hmr, hway⟩⟩
    · refine .inr ⟨hsame ▸ hknown, hsame.symm, fun k hk hmk hke => ?_⟩
      rcases List.mem_append.1 hk with hk | hk
      · exact absurd hmk (hlast k hk).not_gt
      · obtain rfl := List.mem_singleton.1 hk
        exact absurd hke (lt_irrefl _)
    · refine .inr ⟨hmr ▸ hsame ▸ hknown, hmr.trans hsame.symm, fun k hk hmk hke => ?_⟩
      rcases List.mem_append.1 hk with hk | hk
      · rcases (hlast k hk).eq_or_lt with he | hlt
        · rw [eq_of_fst_eq hn hk hr he, hsame]
        · rw [hway k hk hmk hlt, hsame]
      · obtain rfl := List.mem_singleton.1 hk
        exact absurd hke (lt_irrefl _)

end Reaches

/-! ## Folding a group -/

/-- What the fold of some members has to do with their references. -/
structure Shared (rules : List MergeRule) (l : List Placed) (u : MergeTree Placed) : Prop where
  root : u.root ∈ l
  /-- What is not preferred goes into the next member, so that it is at the root only as the last one. -/
  last : preferred rules u.root.2 = false → ∀ k ∈ l, k.1 ≤ u.root.1
  references (x : String) : x ∈ u.survivor.references.names ↔ ∃ m ∈ l, Reaches l m u.root ∧ x ∈ m.2.references.names

variable {rules : List MergeRule} {deps : List Dependency} {l : List Placed} {u t : MergeTree Placed}

theorem Shared.record (b : Placed) : Shared rules [b] (.record b) where
  root := List.mem_singleton_self b
  last _ k hk := by rw [List.mem_singleton.1 hk]; exact le_rfl
  references x := by simp [MergeTree.survivor, MergeTree.dependency, MergeTree.root, Reaches]

theorem Shared.meet (h : Shared rules l u) (hn : (l.map Prod.fst).Nodup) {e : Placed} (hl : ∀ k ∈ l, k.1 < e.1) :
    Shared rules (l ++ [e]) (meet rules u (.record e)) := by
  have hre : u.root.1 < e.1 := hl _ h.root
  unfold DependencyEvidence.meet
  cases hpref : preferred rules u.root.2 with
  | true =>
    refine ⟨List.mem_append_left _ h.root, fun hnot => absurd (hpref.symm.trans hnot) (by simp), fun x => ?_⟩
    show x ∈ (u.survivor.absorb e.2).references.names ↔ ∃ m ∈ l ++ [e], Reaches (l ++ [e]) m u.root ∧ _
    rw [Dependency.mem_references_absorb, h.references, u.sha256_survivor]
    simp only [List.mem_append, List.mem_singleton, or_and_right, exists_or, exists_eq_left, reaches_concat hre,
      reaches_back hre, and_assoc]
  | false =>
    refine ⟨List.mem_append_right _ (List.mem_singleton_self e), fun _ k hk => ?_, fun x => ?_⟩
    · rcases List.mem_append.1 hk with hk | hk
      · exact (hl k hk).le
      · rw [List.mem_singleton.1 hk]
        exact le_rfl
    · show x ∈ (e.2.absorb u.survivor).references.names ↔ ∃ m ∈ l ++ [e], Reaches (l ++ [e]) m e ∧ _
      have hbefore : (∃ m ∈ l, Reaches (l ++ [e]) m e ∧ x ∈ m.2.references.names) ↔
          e.2.sha256 ≠ "" ∧ e.2.sha256 = u.root.2.sha256 ∧
            ∃ m ∈ l, Reaches l m u.root ∧ x ∈ m.2.references.names := by
        constructor
        · rintro ⟨m, hm, hway, hx⟩
          obtain ⟨hknown, hsame, hway⟩ := (reaches_last h.root (h.last hpref) hl hn hm).1 hway
          exact ⟨hknown, hsame, m, hm, hway, hx⟩
        · rintro ⟨hknown, hsame, m, hm, hway, hx⟩
          exact ⟨m, hm, (reaches_last h.root (h.last hpref) hl hn hm).2 ⟨hknown, hsame, hway⟩, hx⟩
      have hself : Reaches (l ++ [e]) e e := .inl rfl
      rw [Dependency.mem_references_absorb, h.references, u.sha256_survivor, ← hbefore]
      simp only [List.mem_append, List.mem_singleton, or_and_right, exists_or, exists_eq_left, hself, true_and, or_comm]

theorem Shared.foldGroup (hl : l.Pairwise (·.1 < ·.1)) (h : foldGroup rules (l.map .record) = some u) :
    Shared rules l u := by
  cases l with
  | nil => cases h
  | cons b rest =>
    obtain rfl := Option.some.inj h
    clear h
    induction rest using List.reverseRecOn with
    | nil => exact .record b
    | append_singleton rest e ih =>
      rw [← List.cons_append] at hl ⊢
      obtain ⟨hbefore, -, hend⟩ := List.pairwise_append.1 hl
      have hn : ((b :: rest).map Prod.fst).Nodup := by
        rw [List.Nodup, List.pairwise_map]
        exact hbefore.imp fun hlt => hlt.ne
      rw [List.map_append, List.foldl_append]
      exact (ih hbefore).meet hn fun k hk => hend k hk e (List.mem_singleton_self e)

/-! ## The main statement -/

theorem pairwise_group (b : Placed) : (group rules deps b).Pairwise (·.1 < ·.1) := by
  refine List.Pairwise.filter _ (List.pairwise_map.1 ?_)
  rw [map_fst_places]
  exact List.pairwise_lt_range

/-- The references of a survivor are those of the members that reach it. -/
theorem mem_references_survivor (ht : t ∈ mergedTrees rules deps) {x : String} :
    x ∈ t.survivor.references.names ↔
      ∃ m ∈ group rules deps t.root, Reaches (group rules deps t.root) m t.root ∧ x ∈ m.2.references.names :=
  (Shared.foldGroup (pairwise_group t.root) (mergedTree_eq ht)).references x

variable (rules deps) in
/-- **A survivor has all references of the members of its content, unless one of other content stands in between.** What
stands behind the survivor is never cut off, and what is cut off is lost: all references of a survivor are its own, or
those of members from which everything up to the survivor has its content. -/
theorem references_mergeAll :
    mergeAll rules deps = (mergedTrees rules deps).map MergeTree.survivor ∧
    ∀ t ∈ mergedTrees rules deps,
      t.members.Perm (group rules deps t.root) ∧
      keeper rules (group rules deps t.root) = some t.root ∧
      t.survivor.sha256 = t.root.2.sha256 ∧
      (∀ m ∈ t.members, m.2.sha256 ≠ "" → m.2.sha256 = t.survivor.sha256 →
        (∀ k ∈ t.members, m.1 < k.1 → k.1 < t.root.1 → k.2.sha256 = t.survivor.sha256) →
        ∀ x ∈ m.2.references.names, x ∈ t.survivor.references.names) ∧
      ∀ x, x ∈ t.survivor.references.names ↔
        ∃ m ∈ group rules deps t.root, Reaches (group rules deps t.root) m t.root ∧ x ∈ m.2.references.names := by
  refine ⟨mergeAll_eq rules deps, fun t ht => ?_⟩
  have hperm := members_perm_group ht
  refine ⟨hperm, keeper_root ht, t.sha256_survivor, fun m hm hknown hsame hway x hx => ?_,
    fun x => mem_references_survivor ht⟩
  rw [t.sha256_survivor] at hsame
  refine (mem_references_survivor ht).2 ⟨m, hperm.subset hm, .inr ⟨hknown, hsame, fun k hk hmk hkr => ?_⟩, hx⟩
  rw [hway k (hperm.symm.subset hk) hmk hkr, t.sha256_survivor]

/-- The specification of a gem, with the digest of its content and the projects that refer to it. -/
def gemspecAt (path sha256 : String) (references : List String) : Dependency :=
  { Dependency.ofPath ⟨path⟩ with packagePath := some "/gems/rack", sha256, references := .ofList references }

/-- References can be lost: here the first file goes into the second one, which has another content, and the second one
into the third, which has the content of the first. -/
theorem not_all_references_mergeAll :
    ¬ ∀ rules deps, ∀ t ∈ mergedTrees rules deps, ∀ m ∈ t.members, m.2.sha256 ≠ "" →
      m.2.sha256 = t.survivor.sha256 → ∀ x ∈ m.2.references.names, x ∈ t.survivor.references.names := by
  intro hall
  let deps := [gemspecAt "/gems/rack/a.gemspec" "1f" ["shop"], gemspecAt "/gems/rack/b.gemspec" "2e" [],
    gemspecAt "/gems/rack/c.gemspec" "1f" []]
  have hleft : ∀ s ∈ mergeAll MergeRule.all deps, s.sha256 = "1f" ∧ s.references.names = [] := by
    have hlist : (mergeAll MergeRule.all deps).map (fun s => (s.sha256, s.references.names)) = [("1f", [])] := by
      decide +kernel
    intro s hs
    have hmem := hlist ▸ List.mem_map_of_mem (f := fun s : Dependency => (s.sha256, s.references.names)) hs
    simpa using hmem
  have hfirst : (0, gemspecAt "/gems/rack/a.gemspec" "1f" ["shop"]) ∈ places deps := mem_places.2 rfl
  obtain ⟨t, ht, hm⟩ := @exists_mem_members MergeRule.all deps _ hfirst
  obtain ⟨hdigest, hnone⟩ := hleft t.survivor (mergeAll_eq MergeRule.all deps ▸ List.mem_map_of_mem ht)
  have hlost := hall MergeRule.all deps t ht _ hm (by decide) hdigest.symm "shop" (by decide +kernel)
  rw [hnone] at hlost
  exact absurd hlost List.not_mem_nil

end DependencyEvidence
