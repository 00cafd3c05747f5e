import DependencyEvidence.Proofs.Merge.Groups

/-!
# What a plan does

A plan goes through the places in order, and `Planned` says how, with a constructor for each way in which it can deal
with the first place that is still there: it *absorbs* all places that are linked to it, it *yields* to one of them, or
it is *alone*. Which of these it is depends on the place only, since all that are linked to it have its rule.

By induction on this relation,
* every step folds two linked places into one (`Planned.links`), and names no place that was folded away before
  (`Planned.fresh`): a plan is well-formed (`plan_wellFormed`);
* the places that are folded away are those that are not the keeper of their group (`Planned.secondary_iff`).
-/

namespace DependencyEvidence

variable {rules : List MergeRule}

/-! ## Rows -/

theorem find_joins_eq_none {a b : Dependency} (h : rules.find? (·.joins a b) = none) : linked rules a b = false := by
  simpa [linked] using h

theorem linked_of_find_joins {a b : Dependency} {r : MergeRule} (h : rules.find? (·.joins a b) = some r) :
    linked rules a b = true :=
  linked_iff.2 ⟨r, List.mem_of_find?_eq_some h, by simpa using List.find?_some h⟩

/-- A preferred place absorbs all places that are linked to it. -/
theorem planRow_of_preferred {a : Placed} (h : preferred rules a.2 = true) (l : List Placed) :
    planRow rules a l =
      ((l.filter (linked rules a.2 ·.2)).map fun b => ⟨a.1, b.1⟩, l.filter (!linked rules a.2 ·.2)) := by
  induction l with
  | nil => rfl
  | cons b rest ih =>
    rw [planRow]
    split
    · next hf => simp [ih, find_joins_eq_none hf]
    · next r hf => simp [ih, linked_of_find_joins hf, prefersFirst_of_find hf, h]

/-- Any other place goes into the first one that is linked to it. -/
theorem planRow_of_not_preferred {a : Placed} (h : preferred rules a.2 = false) (l : List Placed) :
    planRow rules a l = (((l.find? (linked rules a.2 ·.2)).map fun b => ⟨b.1, a.1⟩).toList, l) := by
  induction l with
  | nil => rfl
  | cons b rest ih =>
    rw [planRow]
    split
    · next hf => simp [ih, find_joins_eq_none hf]
    · next r hf => simp [linked_of_find_joins hf, prefersFirst_of_find hf, h]

/-! ## The relation of plans -/

/-- The steps for some places, dealing with one place after another. -/
inductive Planned (rules : List MergeRule) : List Placed → List MergeStep → Prop
  | nil : Planned rules [] []
  | absorbs {a : Placed} {rest : List Placed} {steps : List MergeStep} (h : preferred rules a.2 = true)
      (hrest : Planned rules (rest.filter (!linked rules a.2 ·.2)) steps) :
      Planned rules (a :: rest) ((rest.filter (linked rules a.2 ·.2)).map (fun b => ⟨a.1, b.1⟩) ++ steps)
  | yields {a c : Placed} {rest : List Placed} {steps : List MergeStep} (h : preferred rules a.2 = false)
      (hc : c ∈ rest) (hl : linked rules a.2 c.2 = true) (hrest : Planned rules rest steps) :
      Planned rules (a :: rest) (⟨c.1, a.1⟩ :: steps)
  | alone {a : Placed} {rest : List Placed} {steps : List MergeStep} (h : preferred rules a.2 = false)
      (hl : ∀ c ∈ rest, linked rules a.2 c.2 = false) (hrest : Planned rules rest steps) :
      Planned rules (a :: rest) steps

theorem planned_planFrom (rules : List MergeRule) (l : List Placed) : Planned rules l (planFrom rules l) := by
  fun_induction planFrom rules l with
  | case1 => exact .nil
  | case2 a rest ih =>
    cases h : preferred rules a.2 with
    | true =>
      rw [planRow_of_preferred h] at ih ⊢
      exact .absorbs h ih
    | false =>
      rw [planRow_of_not_preferred h] at ih ⊢
      cases hf : rest.find? (linked rules a.2 ·.2) with
      | none => exact .alone h (by simpa using hf) ih
      | some c => exact .yields h (List.mem_of_find?_eq_some hf) (by simpa using List.find?_some hf) ih

namespace Planned

variable {l : List Placed} {steps : List MergeStep}

/-- The places after the first one differ from it and from each other, and so do those that are not linked to it. -/
theorem nodup_tail {a : Placed} {rest : List Placed} (hn : ((a :: rest).map Prod.fst).Nodup) :
    (∀ b ∈ rest, a.1 ≠ b.1) ∧ (rest.map Prod.fst).Nodup ∧
      ∀ p : Placed → Bool, ((rest.filter p).map Prod.fst).Nodup := by
  rw [List.map_cons, List.nodup_cons] at hn
  refine ⟨fun b hb he => hn.1 (he ▸ List.mem_map_of_mem hb), hn.2, fun p => ?_⟩
  exact hn.2.sublist (List.filter_sublist.map _)

/-- Every step joins two places that are linked. -/
theorem links (h : Planned rules l steps) (hn : (l.map Prod.fst).Nodup) :
    ∀ s ∈ steps, ∃ x ∈ l, ∃ y ∈ l, s = ⟨x.1, y.1⟩ ∧ x.1 ≠ y.1 ∧ linked rules x.2 y.2 = true := by
  induction h with
  | nil => exact fun s hs => absurd hs (List.not_mem_nil)
  | @absorbs a rest steps _ _ ih =>
    obtain ⟨hne, -, hfilter⟩ := nodup_tail hn
    intro s hs
    rcases List.mem_append.1 hs with hs | hs
    · obtain ⟨b, hb, rfl⟩ := List.mem_map.1 hs
      obtain ⟨hb, hl⟩ := List.mem_filter.1 hb
      exact ⟨a, List.mem_cons_self, b, List.mem_cons_of_mem _ hb, rfl, hne b hb, hl⟩
    · obtain ⟨x, hx, y, hy, he⟩ := ih (hfilter _) s hs
      exact ⟨x, List.mem_cons_of_mem _ (List.mem_of_mem_filter hx), y,
        List.mem_cons_of_mem _ (List.mem_of_mem_filter hy), he⟩
  | @yields a c rest steps _ hc hl _ ih =>
    obtain ⟨hne, hrest, -⟩ := nodup_tail hn
    intro s hs
    rcases List.mem_cons.1 hs with rfl | hs
    · exact ⟨c, List.mem_cons_of_mem _ hc, a, List.mem_cons_self, rfl, (hne c hc).symm, linked_symm hl⟩
    · obtain ⟨x, hx, y, hy, he⟩ := ih hrest s hs
      exact ⟨x, List.mem_cons_of_mem _ hx, y, List.mem_cons_of_mem _ hy, he⟩
  | alone _ _ _ ih =>
    obtain ⟨-, hrest, -⟩ := nodup_tail hn
    intro s hs
    obtain ⟨x, hx, y, hy, he⟩ := ih hrest s hs
    exact ⟨x, List.mem_cons_of_mem _ hx, y, List.mem_cons_of_mem _ hy, he⟩

/-- The sides of a step are places of the list. -/
theorem sides (h : Planned rules l steps) (hn : (l.map Prod.fst).Nodup) {s : MergeStep} (hs : s ∈ steps) :
    s.primary ∈ l.map Prod.fst ∧ s.secondary ∈ l.map Prod.fst := by
  obtain ⟨x, hx, y, hy, rfl, -⟩ := h.links hn s hs
  exact ⟨List.mem_map_of_mem hx, List.mem_map_of_mem hy⟩

/-- No step names a place that an earlier one has emptied. -/
theorem fresh (h : Planned rules l steps) (hn : (l.map Prod.fst).Nodup) :
    steps.Pairwise fun s t => s.secondary ≠ t.primary ∧ s.secondary ≠ t.secondary := by
  induction h with
  | nil => exact .nil
  | @absorbs a rest steps _ hrest ih =>
    obtain ⟨hne, htail, hfilter⟩ := nodup_tail hn
    refine List.pairwise_append.2 ⟨?_, ih (hfilter _), ?_⟩
    · rw [List.pairwise_map]
      refine (List.pairwise_map.1 (hfilter (linked rules a.2 ·.2))).imp_of_mem fun hb _ hbc => ?_
      exact ⟨(hne _ (List.mem_of_mem_filter hb)).symm, hbc⟩
    · intro s hs t ht
      obtain ⟨b, hb, rfl⟩ := List.mem_map.1 hs
      obtain ⟨hb, hl⟩ := List.mem_filter.1 hb
      -- what is linked to the first place is no longer there
      have hgone : b.1 ∉ (rest.filter (!linked rules a.2 ·.2)).map Prod.fst := fun hm => by
        obtain ⟨c, hc, he⟩ := List.mem_map.1 hm
        obtain ⟨hc, hnl⟩ := List.mem_filter.1 hc
        rw [eq_of_fst_eq htail hc hb he, hl] at hnl
        cases hnl
      obtain ⟨hp, hq⟩ := hrest.sides (hfilter _) ht
      exact ⟨fun (he : b.1 = t.primary) => hgone (he ▸ hp), fun (he : b.1 = t.secondary) => hgone (he ▸ hq)⟩
  | @yields a c rest steps _ _ _ hrest ih =>
    obtain ⟨hne, htail, -⟩ := nodup_tail hn
    have hgone : a.1 ∉ rest.map Prod.fst := fun hm => by
      obtain ⟨b, hb, he⟩ := List.mem_map.1 hm
      exact hne b hb he.symm
    refine List.pairwise_cons.2 ⟨fun t ht => ?_, ih htail⟩
    obtain ⟨hp, hq⟩ := hrest.sides htail ht
    exact ⟨fun (he : a.1 = t.primary) => hgone (he ▸ hp), fun (he : a.1 = t.secondary) => hgone (he ▸ hq)⟩
  | alone _ _ _ ih => exact ih (nodup_tail hn).2.1

end Planned

/-! ## Who is folded away -/

/-- The first place is in the groups of the places that are linked to it, and these are all with it in its own group. -/
theorem groupIn_cons_of_mem {a b : Placed} {rest : List Placed} (hne : ∀ c ∈ rest, a.1 ≠ c.1) (hb : b ∈ rest) :
    groupIn rules (a :: rest) b =
      if linked rules b.2 a.2 = true then a :: groupIn rules rest b else groupIn rules rest b := by
  have htog : together rules b a = linked rules b.2 a.2 := by simp [together, (hne b hb).symm]
  rw [groupIn, List.filter_cons, htog]
  rfl

theorem groupIn_cons_self {a : Placed} {rest : List Placed} :
    groupIn rules (a :: rest) a = a :: groupIn rules rest a := by
  rw [groupIn, List.filter_cons_of_pos (together_refl a)]
  rfl

theorem self_mem_groupIn {b : Placed} {l : List Placed} (hb : b ∈ l) : b ∈ groupIn rules l b :=
  List.mem_filter.2 ⟨hb, together_refl b⟩

/-- A first place that is not preferred never survives in place of a later one. -/
theorem keeper_groupIn_cons {a b : Placed} {rest : List Placed} (h : preferred rules a.2 = false)
    (hne : ∀ c ∈ rest, a.1 ≠ c.1) (hb : b ∈ rest) :
    keeper rules (groupIn rules (a :: rest) b) = keeper rules (groupIn rules rest b) := by
  rw [groupIn_cons_of_mem hne hb]
  split
  · exact keeper_cons_of_not_preferred h (List.ne_nil_of_mem (self_mem_groupIn hb))
  · rfl

/-- Without the places that are linked to the first one, the group of another place is the same. -/
theorem groupIn_filter_not_linked {a b : Placed} {rest : List Placed} (hn : (rest.map Prod.fst).Nodup) (hb : b ∈ rest)
    (hl : linked rules a.2 b.2 = false) :
    groupIn rules (rest.filter (!linked rules a.2 ·.2)) b = groupIn rules rest b := by
  rw [groupIn, List.filter_filter]
  refine List.filter_congr fun c hc => ?_
  cases htog : together rules b c with
  | false => rfl
  | true =>
    have hac : linked rules a.2 c.2 = false := by
      rcases Bool.or_eq_true_iff.1 htog with he | hbc
      · rwa [← eq_of_fst_eq hn hb hc (of_decide_eq_true he)]
      · exact Bool.eq_false_iff.2 fun hac => Bool.false_ne_true (hl.symm.trans (linked_trans hac (linked_symm hbc)))
    simp [hac]

namespace Planned

variable {l : List Placed} {steps : List MergeStep}

theorem map_secondary_row (a : Placed) (l : List Placed) :
    (l.map fun b => (⟨a.1, b.1⟩ : MergeStep)).map MergeStep.secondary = l.map Prod.fst := List.map_map

/-- **A plan folds away all but the keepers of the groups.** -/
theorem secondary_iff (h : Planned rules l steps) (hn : (l.map Prod.fst).Nodup) :
    ∀ b ∈ l, b.1 ∈ steps.map MergeStep.secondary ↔ keeper rules (groupIn rules l b) ≠ some b := by
  -- the places that the steps name lie behind the first one
  have hsides : ∀ {a : Placed} {k : List Placed} {t : List MergeStep}, Planned rules k t → (k.map Prod.fst).Nodup →
      (∀ c ∈ k, a.1 ≠ c.1) → a.1 ∉ t.map MergeStep.secondary := fun hk hkn hne hm => by
    obtain ⟨s, hs, he⟩ := List.mem_map.1 hm
    obtain ⟨c, hc, hce⟩ := List.mem_map.1 (hk.sides hkn hs).2
    exact hne c hc (he.symm.trans hce.symm)
  induction h with
  | nil => exact fun b hb => absurd hb (List.not_mem_nil)
  | @absorbs a rest steps hpref hrest ih =>
    obtain ⟨hne, htail, hfilter⟩ := nodup_tail hn
    have hself : a.1 ∉ steps.map MergeStep.secondary :=
      hsides hrest (hfilter _) fun c hc => hne c (List.mem_of_mem_filter hc)
    have hrow : ∀ b ∈ rest, b.1 ∈ (rest.filter (linked rules a.2 ·.2)).map Prod.fst ↔ linked rules a.2 b.2 = true := by
      intro b hb
      constructor
      · intro hm
        obtain ⟨c, hc, he⟩ := List.mem_map.1 hm
        obtain ⟨hc, hl⟩ := List.mem_filter.1 hc
        rwa [← eq_of_fst_eq htail hc hb he]
      · exact fun hl => List.mem_map_of_mem (List.mem_filter.2 ⟨hb, hl⟩)
    intro b hb
    rw [List.map_append, List.mem_append, map_secondary_row]
    rcases List.mem_cons.1 hb with rfl | hb
    · rw [groupIn_cons_self, keeper_cons_of_preferred hpref]
      have hnot : b.1 ∉ (rest.filter (linked rules b.2 ·.2)).map Prod.fst := fun hm => by
        obtain ⟨c, hc, he⟩ := List.mem_map.1 hm
        exact hne c (List.mem_of_mem_filter hc) he.symm
      simp [hnot, hself]
    · rw [hrow b hb, groupIn_cons_of_mem hne hb]
      cases hl : linked rules a.2 b.2 with
      | true =>
        have hab : a ≠ b := fun he => hne b hb (he ▸ rfl)
        rw [if_pos (linked_symm hl), keeper_cons_of_preferred hpref]
        simp [hab]
      | false =>
        have hba : linked rules b.2 a.2 ≠ true := fun k => Bool.false_ne_true (hl.symm.trans (linked_symm k))
        rw [if_neg hba, ← groupIn_filter_not_linked htail hb hl,
          ← ih (hfilter _) b (List.mem_filter.2 ⟨hb, by simp [hl]⟩)]
        simp
  | @yields a c rest steps hpref hc hl hrest ih =>
    obtain ⟨hne, htail, -⟩ := nodup_tail hn
    intro b hb
    rw [List.map_cons, List.mem_cons]
    rcases List.mem_cons.1 hb with rfl | hb
    · have hother : c ∈ groupIn rules rest b := List.mem_filter.2 ⟨hc, by simp [together, hl]⟩
      rw [groupIn_cons_self, keeper_cons_of_not_preferred hpref (List.ne_nil_of_mem hother)]
      refine iff_of_true (.inl rfl) fun hk => ?_
      exact hne b (List.mem_of_mem_filter (keeper_mem hk)) rfl
    · rw [keeper_groupIn_cons hpref hne hb, ← ih htail b hb]
      exact or_iff_right (hne b hb).symm
  | @alone a rest steps hpref hl hrest ih =>
    obtain ⟨hne, htail, -⟩ := nodup_tail hn
    intro b hb
    rcases List.mem_cons.1 hb with rfl | hb
    · have hnone : groupIn rules rest b = [] :=
        List.filter_eq_nil_iff.2 fun c hc => by simp [together, hne c hc, hl c hc]
      rw [groupIn_cons_self, hnone, keeper_singleton]
      exact iff_of_false (hsides hrest htail hne) (not_not_intro rfl)
    · rw [keeper_groupIn_cons hpref hne hb, ih htail b hb]

end Planned

end DependencyEvidence
