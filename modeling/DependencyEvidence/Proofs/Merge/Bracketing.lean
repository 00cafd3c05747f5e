import DependencyEvidence.Proofs.Merge.Tree
import Mathlib.Data.List.Perm.Basic

/-!
# Folding in any order

Dependencies come together one merge at a time, where each merge takes any two of those that are left and folds one of
them into the other (`FoldsTo`). Whatever is taken first, and whichever side is kept, this carries out some tree of
merges, and every tree is carried out in this way (`foldsTo_iff_exists_tree`). So what holds of all trees holds of all
ways to fold: nothing is lost or doubled on the way, and evidence that is handed on does not count twice
(`FoldsTo.conserves`).
-/

namespace DependencyEvidence

/-- Some dependencies can be folded into one: while there are others, any two become one, the second of them folded into
the first. -/
inductive FoldsTo : List Dependency → Dependency → Prop
  | one (d : Dependency) : FoldsTo [d] d
  | more {ds rest : List Dependency} {p s d : Dependency} (hds : ds.Perm (p :: s :: rest))
      (hrest : FoldsTo (p.absorb s :: rest) d) : FoldsTo ds d

/-! ## Trees carried out -/

namespace FoldsTo

variable {ds es rest : List Dependency} {d e : Dependency}

theorem perm (h : FoldsTo ds d) (hes : es.Perm ds) : FoldsTo es d := by
  cases h with
  | one d =>
    rw [List.perm_singleton.1 hes]
    exact .one d
  | more hds hrest => exact .more (hes.trans hds) hrest

/-- What is folded first can be folded beside others. -/
theorem beside (h : FoldsTo ds d) (hrest : FoldsTo (d :: rest) e) : FoldsTo (ds ++ rest) e := by
  induction h with
  | one d => exact hrest
  | more hds _ ih => exact .more (hds.append_right rest) (ih hrest)

end FoldsTo

/-- Every tree is a way to fold its members. -/
theorem foldsTo_dependency (t : MergeTree Dependency) : FoldsTo t.members (t.dependency id) := by
  induction t with
  | record d => exact .one d
  | merged p s ihp ihs =>
    have hlast : FoldsTo [p.dependency id, s.dependency id] ((p.dependency id).absorb (s.dependency id)) :=
      .more (.refl _) (.one _)
    have hsecond : FoldsTo (s.dependency id :: p.members) ((p.dependency id).absorb (s.dependency id)) :=
      (ihp.beside hlast).perm (List.perm_append_singleton _ _).symm
    exact (ihs.beside hsecond).perm List.perm_append_comm

/-! ## Trees of folds -/

theorem exists_perm_of_perm_map {α β : Type} {f : α → β} {l : List α} {m : List β} (h : (l.map f).Perm m) :
    ∃ k : List α, k.Perm l ∧ m = k.map f := by
  have hcomp : Relation.Comp (· = List.map f ·) List.Perm m l := by
    rw [List.eq_map_comp_perm]
    exact h.symm
  obtain ⟨k, hm, hk⟩ := hcomp
  exact ⟨k, hk, hm⟩

/-- If what some trees give folds to one, then a tree of all their members gives it. -/
theorem exists_tree_of_foldsTo {ds : List Dependency} {d : Dependency} (h : FoldsTo ds d)
    (ts : List (MergeTree Dependency)) (hts : ts.map (·.dependency id) = ds) :
    ∃ t : MergeTree Dependency, t.members.Perm (ts.flatMap MergeTree.members) ∧ t.dependency id = d := by
  induction h generalizing ts with
  | one d =>
    obtain ⟨t, rfl, ht⟩ := List.map_eq_singleton_iff.1 hts
    refine ⟨t, ?_, ht⟩
    rw [List.flatMap_singleton]
  | more hds _ ih =>
    obtain ⟨k, hk, hmap⟩ := exists_perm_of_perm_map (hts ▸ hds)
    obtain ⟨first, k, rfl, rfl, htail⟩ := List.map_eq_cons_iff.1 hmap.symm
    obtain ⟨second, k, rfl, rfl, rfl⟩ := List.map_eq_cons_iff.1 htail
    -- the two trees become one, as their results do
    obtain ⟨t, hmembers, ht⟩ := ih (.merged first second :: k) rfl
    refine ⟨t, hmembers.trans ?_, ht⟩
    have hsame : (MergeTree.merged first second :: k).flatMap MergeTree.members =
        (first :: second :: k).flatMap MergeTree.members := by
      simp only [List.flatMap_cons, MergeTree.members, List.append_assoc]
    rw [hsame]
    exact hk.flatMap_right _

/-- **Folding in any order is to carry out a tree of merges.** -/
theorem foldsTo_iff_exists_tree {ds : List Dependency} {d : Dependency} :
    FoldsTo ds d ↔ ∃ t : MergeTree Dependency, t.members.Perm ds ∧ t.dependency id = d := by
  constructor
  · intro h
    have hrecords : (ds.map MergeTree.record).map (·.dependency id) = ds := by
      simp [Function.comp_def, MergeTree.dependency]
    obtain ⟨t, hmembers, ht⟩ := exists_tree_of_foldsTo h _ hrecords
    have hall : (ds.map MergeTree.record).flatMap MergeTree.members = ds := by
      simp [List.flatMap_map, MergeTree.members]
    exact ⟨t, hall ▸ hmembers, ht⟩
  · rintro ⟨t, hmembers, rfl⟩
    exact (foldsTo_dependency t).perm hmembers.symm

/-! ## The main statement -/

/-- Where nothing is below the members, all that is below the result was folded into something. -/
theorem MergeTree.related_of_unrelated {α : Type} {f : α → Dependency} {t : MergeTree α}
    (h : ∀ m ∈ t.members, (f m).related = []) :
    (t.dependency f).related.Perm (t.absorbed.map fun u => (u.dependency f).takeRelated.2) := by
  have hnone : t.members.flatMap (fun m => (f m).related) = [] := List.flatMap_eq_nil_iff.2 h
  simpa [hnone] using t.related_dependency f

variable {ds : List Dependency} {d : Dependency}

/-- **However dependencies are folded into one, nothing is lost or doubled.**

* What the result says on an axis is the pointwise maximum of what they said.
* The result, with all that is below it, has the records that they had, and nothing is nested deeper than it was, or
  than one level.
* If nothing was below them, the result is one of them, and has each other one once directly below it, with nothing
  further below. -/
theorem FoldsTo.conserves (h : FoldsTo ds d) :
    (∀ a : Axis, (d.evidence a).toMap = .join (ds.map fun e => (e.evidence a).toMap)) ∧
    d.keys.Perm (ds.flatMap Dependency.keys) ∧ d.nesting ≤ max 1 (relatedDepth ds) ∧
    ((∀ e ∈ ds, e.related = []) → ∃ kept others, ds.Perm (kept :: others) ∧ d.key = kept.key ∧
      (d.related.map (·.key)).Perm (others.map (·.key)) ∧ ∀ r ∈ d.related, r.related = []) := by
  obtain ⟨t, hmembers, rfl⟩ := foldsTo_iff_exists_tree.1 h
  refine ⟨fun a => ?_, (t.keys_dependency id).trans (hmembers.flatMap_right _), ?_, fun hnone => ?_⟩
  · rw [t.toMap_evidence_dependency]
    exact EvidenceMap.join_perm (hmembers.map _)
  · apply t.nesting_dependency_le id (Nat.le_max_left _ _)
    intro m hm
    have hdepth := relatedDepth_le.1 (Nat.le_refl (relatedDepth ds)) m (hmembers.subset hm)
    exact Nat.le_trans hdepth (Nat.le_max_right _ _)
  · have hbelow : (t.dependency id).related.Perm (t.absorbed.map fun u => (u.dependency id).takeRelated.2) :=
      MergeTree.related_of_unrelated fun m hm => hnone m (hmembers.subset hm)
    refine ⟨t.root, t.absorbed.map MergeTree.root, hmembers.symm.trans t.members_perm, t.key_dependency id, ?_,
      fun r hr => ?_⟩
    · refine (hbelow.map _).trans (List.Perm.of_eq ?_)
      rw [List.map_map, List.map_map]
      exact List.map_congr_left fun u _ => u.key_dependency id
    · obtain ⟨u, -, rfl⟩ := List.mem_map.1 (hbelow.subset hr)
      rfl

/-- The specification of a gem that tells its author. -/
def authoredGem (path author : String) (confidence : Confidence) : Dependency :=
  { Dependency.ofPath ⟨path⟩ with vendor := .ofList [⟨"gemspec", "author", author, confidence⟩] }

/-- Three files, of which the second goes into the first, and this one into the third. -/
theorem conserves_three :
    let a := authoredGem "/gems/rack/a.gemspec" "Acme" .low
    let b := authoredGem "/gems/rack/b.gemspec" "ACME" .highest
    let c := authoredGem "/gems/rack/c.gemspec" "acme" .medium
    let d := c.absorb (a.absorb b)
    FoldsTo [a, b, c] d ∧
      d.vendor.toMap = .join [a.vendor.toMap, b.vendor.toMap, c.vendor.toMap] ∧
      d.keys.Perm [a.key, b.key, c.key] ∧ d.related.length = 2 := by
  intro a b c d
  have hfolds : FoldsTo [a, b, c] d :=
    .more (.refl _) (.more (List.Perm.swap _ _ _) (.one d))
  obtain ⟨hmaps, hkeys, -, hbelow⟩ := hfolds.conserves
  have hnone : ∀ e ∈ [a, b, c], e.related = [] := by
    intro e he
    simp only [List.mem_cons, List.not_mem_nil, or_false] at he
    rcases he with rfl | rfl | rfl <;> rfl
  obtain ⟨kept, others, hperm, -, hrelated, -⟩ := hbelow hnone
  refine ⟨hfolds, hmaps .vendor, hkeys, ?_⟩
  have hothers := hperm.length_eq
  have hlength := hrelated.length_eq
  simp only [List.length_map, List.length_cons, List.length_nil] at hothers hlength
  omega

end DependencyEvidence
