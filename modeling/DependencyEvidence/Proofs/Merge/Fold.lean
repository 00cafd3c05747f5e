import DependencyEvidence.Proofs.Merge.Survivors

/-!
# Groups are folded along their order

A plan deals with all groups at once. For a single group it does something simple: its members meet one after another,
in the order of the working set, and what has come together so far absorbs the next member if its root is preferred, and
goes into it otherwise (`meet`).

`Folded` says so of some places, whatever trees they held before. It is proved by induction on the plan, one lemma for each
way in which the first place can be dealt with (`folded_planFrom`), and gives each tree of a merge in terms of its group
alone (`mergedTree_eq`).
-/

namespace DependencyEvidence

open MergeStep

variable {rules : List MergeRule}

/-! ## Meeting -/

/-- What has come together meets the next member of the group. -/
def meet (rules : List MergeRule) (t u : MergeTree Placed) : MergeTree Placed :=
  if preferred rules t.root.2 then .merged t u else .merged u t

/-- The members of a group meet one after another. -/
def foldGroup (rules : List MergeRule) : List (MergeTree Placed) → Option (MergeTree Placed)
  | [] => none
  | t :: rest => some (rest.foldl (meet rules) t)

/-- What is preferred absorbs all that follows. -/
theorem foldl_meet_of_preferred {t : MergeTree Placed} (h : preferred rules t.root.2 = true)
    (us : List (MergeTree Placed)) : us.foldl (meet rules) t = us.foldl .merged t := by
  induction us generalizing t with
  | nil => rfl
  | cons u us ih =>
    have hmeet : meet rules t u = .merged t u := if_pos h
    rw [List.foldl_cons, List.foldl_cons, hmeet]
    exact ih h

/-- What is not preferred goes into the first one that follows. -/
theorem foldGroup_cons_cons_of_not_preferred {t u : MergeTree Placed} (h : preferred rules t.root.2 = false)
    (us : List (MergeTree Placed)) : foldGroup rules (t :: u :: us) = foldGroup rules (.merged u t :: us) := by
  have hmeet : meet rules t u = .merged u t := if_neg (by simp [h])
  rw [foldGroup, List.foldl_cons, hmeet]
  rfl

theorem members_meet (t u : MergeTree Placed) : (meet rules t u).members.Perm (t.members ++ u.members) := by
  unfold meet
  split
  · exact .refl _
  · exact List.perm_append_comm

/-- Folding keeps all members. -/
theorem members_foldGroup {ts : List (MergeTree Placed)} {u : MergeTree Placed} (h : foldGroup rules ts = some u) :
    u.members.Perm (ts.flatMap MergeTree.members) := by
  cases ts with
  | nil => cases h
  | cons t rest =>
    obtain rfl := Option.some.inj h
    induction rest generalizing t with
    | nil => simp
    | cons v rest ih =>
      refine (ih (meet rules t v) rfl).trans ?_
      simpa only [List.flatMap_cons, List.append_assoc] using (members_meet t v).append_right _

/-! ## The steps of a plan -/

section Slots

variable {α : Type} {c : α → α → α} {slots : List (Option α)}

/-- Steps on other places leave a place alone. -/
theorem getElem?_foldl_carry {steps : List MergeStep} {k : Nat}
    (h : ∀ s ∈ steps, s.primary ≠ k ∧ s.secondary ≠ k) : (steps.foldl (carry c) slots)[k]? = slots[k]? := by
  induction steps generalizing slots with
  | nil => rfl
  | cons s rest ih =>
    obtain ⟨⟨hp, hs⟩, hrest⟩ := List.forall_mem_cons.1 h
    rw [List.foldl_cons, ih hrest]
    rcases carry_cases c slots s with ⟨-, he⟩ | ⟨-, p, q, -, -, he⟩
    · rw [he]
    · rw [he, List.getElem?_set_ne hp, List.getElem?_set_ne hs]

/-- A step between two places that hold something. -/
theorem carry_of_filled {i j : Nat} {p q : α} (hij : i ≠ j) (hi : slots[i]? = some (some p))
    (hj : slots[j]? = some (some q)) : carry c slots ⟨i, j⟩ = (slots.set j none).set i (some (c p q)) := by
  simp [carry, hij, hi, hj]

/-- Steps that fold one place after another into the same one. -/
theorem foldl_carry_row {a : Placed} {f : Placed → α} {l : List Placed} (hne : ∀ b ∈ l, a.1 ≠ b.1)
    (hl : (l.map Prod.fst).Nodup) {x : α} (ha : slots[a.1]? = some (some x))
    (hf : ∀ b ∈ l, slots[b.1]? = some (some (f b))) :
    ((l.map fun b => (⟨a.1, b.1⟩ : MergeStep)).foldl (carry c) slots)[a.1]? =
      some (some ((l.map f).foldl c x)) := by
  induction l generalizing slots x with
  | nil => exact ha
  | cons b rest ih =>
    obtain ⟨hab, hrest⟩ := List.forall_mem_cons.1 hne
    obtain ⟨hfb, hfrest⟩ := List.forall_mem_cons.1 hf
    rw [List.map_cons, List.nodup_cons] at hl
    have hlt : a.1 < slots.length := (List.getElem?_eq_some_iff.1 ha).1
    rw [List.map_cons, List.foldl_cons, carry_of_filled hab ha hfb]
    refine ih hrest hl.2 ?_ fun d hd => ?_
    · rw [List.getElem?_set_self (by simpa using hlt)]
    · have hbd : b.1 ≠ d.1 := fun he => hl.1 (he ▸ List.mem_map_of_mem hd)
      rw [List.getElem?_set_ne (hrest d hd), List.getElem?_set_ne hbd]
      exact hfrest d hd

end Slots

/-- A plan names places of its list only, and leaves all others alone. -/
theorem getElem?_planFrom {l : List Placed} (hl : (l.map Prod.fst).Nodup) {k : Nat} (hk : k ∉ l.map Prod.fst) {α : Type}
    (c : α → α → α) (slots : List (Option α)) : ((planFrom rules l).foldl (carry c) slots)[k]? = slots[k]? := by
  refine getElem?_foldl_carry fun s hs => ?_
  obtain ⟨hp, hq⟩ := (planned_planFrom rules l).sides hl hs
  exact ⟨fun he => hk (he ▸ hp), fun he => hk (he ▸ hq)⟩

/-! ## Groups of a list -/

section Groups

variable {a b : Placed} {rest : List Placed}

/-- The other members of the group of the first place are those that are linked to it. -/
theorem groupIn_tail (hne : ∀ c ∈ rest, a.1 ≠ c.1) : groupIn rules rest a = rest.filter (linked rules a.2 ·.2) :=
  List.filter_congr fun c hc => by simp [together, hne c hc]

/-- Any of them has these in its group. -/
theorem groupIn_of_linked (hn : (rest.map Prod.fst).Nodup) (hb : b ∈ rest) (h : linked rules a.2 b.2 = true) :
    groupIn rules rest b = rest.filter (linked rules a.2 ·.2) := by
  refine List.filter_congr fun c hc => Bool.eq_iff_iff.2 ?_
  rw [together, Bool.or_eq_true, decide_eq_true_eq]
  constructor
  · rintro (he | hbc)
    · rwa [← eq_of_fst_eq hn hb hc he]
    · exact linked_trans h hbc
  · exact fun hac => .inr (linked_trans (linked_symm h) hac)

variable (rules) in
/-- Every place is in the group of the first one, or has a group without it. -/
theorem groupIn_cons_cases (hne : ∀ c ∈ rest, a.1 ≠ c.1) (hn : (rest.map Prod.fst).Nodup) (hb : b ∈ a :: rest) :
    groupIn rules (a :: rest) b = a :: rest.filter (linked rules a.2 ·.2) ∨
      (b ∈ rest ∧ linked rules a.2 b.2 = false ∧ groupIn rules (a :: rest) b = groupIn rules rest b) := by
  rcases List.mem_cons.1 hb with rfl | hb
  · exact .inl (by rw [groupIn_cons_self, groupIn_tail hne])
  · cases h : linked rules a.2 b.2 with
    | true => exact .inl (by rw [groupIn_cons_of_mem hne hb, if_pos (linked_symm h), groupIn_of_linked hn hb h])
    | false =>
      have hba : ¬ linked rules b.2 a.2 = true := fun k => Bool.false_ne_true (h.symm.trans (linked_symm k))
      exact .inr ⟨hb, rfl, by rw [groupIn_cons_of_mem hne hb, if_neg hba]⟩

end Groups

/-! ## Plans -/

/-- The group of each of some places has come together as its members fold, at the place of the root. -/
def Folded (rules : List MergeRule) (l : List Placed) (f : Placed → MergeTree Placed)
    (slots : List (Option (MergeTree Placed))) : Prop :=
  ∀ b ∈ l, ∃ t, foldGroup rules ((groupIn rules l b).map f) = some t ∧ slots[t.root.1]? = some (some t)

section Folded

variable {a c : Placed} {rest : List Placed} {f : Placed → MergeTree Placed} {slots : List (Option (MergeTree Placed))}

theorem root_foldl_merged (t : MergeTree Placed) (us : List (MergeTree Placed)) :
    (us.foldl .merged t).root = t.root := by
  induction us generalizing t with
  | nil => rfl
  | cons u us ih => exact ih _

/-- The first place absorbs all that is linked to it. -/
theorem Folded.absorbs (hne : ∀ b ∈ rest, a.1 ≠ b.1) (hn : (rest.map Prod.fst).Nodup) (hroot : (f a).root = a)
    (hpref : preferred rules a.2 = true)
    (ha : slots[a.1]? = some (some (((rest.filter (linked rules a.2 ·.2)).map f).foldl .merged (f a))))
    (h : Folded rules (rest.filter (!linked rules a.2 ·.2)) f slots) : Folded rules (a :: rest) f slots := by
  intro b hb
  rcases groupIn_cons_cases rules hne hn hb with hgroup | ⟨hb, hl, hgroup⟩
  · refine ⟨((rest.filter (linked rules a.2 ·.2)).map f).foldl .merged (f a), ?_, ?_⟩
    · rw [hgroup, List.map_cons, foldGroup, foldl_meet_of_preferred (by rwa [hroot])]
    · rwa [root_foldl_merged, hroot]
  · rw [hgroup, ← groupIn_filter_not_linked hn hb hl]
    exact h b (List.mem_filter.2 ⟨hb, by simp [hl]⟩)

/-- The first place goes into the first one that is linked to it. -/
theorem Folded.yields (hne : ∀ b ∈ rest, a.1 ≠ b.1) (hn : (rest.map Prod.fst).Nodup) (hroot : (f a).root = a)
    (hpref : preferred rules a.2 = false) (hc : rest.find? (linked rules a.2 ·.2) = some c)
    (h : Folded rules rest (fun b => if b.1 = c.1 then .merged (f c) (f a) else f b) slots) :
    Folded rules (a :: rest) f slots := by
  have hcr : c ∈ rest := List.mem_of_find?_eq_some hc
  have hcl : linked rules a.2 c.2 = true := by simpa using List.find?_some hc
  obtain ⟨more, hmore⟩ : ∃ more, rest.filter (linked rules a.2 ·.2) = c :: more :=
    List.head?_eq_some_iff.1 (by rw [List.head?_filter, hc])
  intro b hb
  rcases groupIn_cons_cases rules hne hn hb with hgroup | ⟨hb, hl, hgroup⟩
  · obtain ⟨t, ht, hslot⟩ := h c hcr
    refine ⟨t, ?_, hslot⟩
    rw [groupIn_of_linked hn hcr hcl, hmore, List.map_cons, if_pos rfl] at ht
    rw [hgroup, hmore, List.map_cons, List.map_cons, foldGroup_cons_cons_of_not_preferred (by rwa [hroot]), ← ht]
    congr 2
    -- only the first of the others holds something else now
    have hfirst : ((c :: more).map Prod.fst).Nodup := hmore ▸ hn.sublist (List.filter_sublist.map _)
    refine List.map_congr_left fun m hm => (if_neg fun he => ?_).symm
    rw [List.map_cons, List.nodup_cons] at hfirst
    exact hfirst.1 (he ▸ List.mem_map_of_mem hm)
  · obtain ⟨t, ht, hslot⟩ := h b hb
    refine ⟨t, ?_, hslot⟩
    rw [hgroup, ← ht]
    congr 1
    refine List.map_congr_left fun m hm => (if_neg fun he => ?_).symm
    obtain ⟨hm, htog⟩ := List.mem_filter.1 hm
    rw [eq_of_fst_eq hn hm hcr he, together, Bool.or_eq_true, decide_eq_true_eq] at htog
    rcases htog with he | hbc
    · rw [eq_of_fst_eq hn hb hcr he, hcl] at hl
      cases hl
    · exact Bool.false_ne_true (hl.symm.trans (linked_trans hcl (linked_symm hbc)))

/-- The first place is alone in its group. -/
theorem Folded.alone (hne : ∀ b ∈ rest, a.1 ≠ b.1) (hn : (rest.map Prod.fst).Nodup) (hroot : (f a).root = a)
    (hl : ∀ b ∈ rest, linked rules a.2 b.2 = false) (ha : slots[a.1]? = some (some (f a)))
    (h : Folded rules rest f slots) : Folded rules (a :: rest) f slots := by
  intro b hb
  rcases groupIn_cons_cases rules hne hn hb with hgroup | ⟨hb, -, hgroup⟩
  · refine ⟨f a, ?_, by rwa [hroot]⟩
    have hnone : rest.filter (linked rules a.2 ·.2) = [] := List.filter_eq_nil_iff.2 fun b hb => by simp [hl b hb]
    rw [hgroup, hnone]
    rfl
  · rw [hgroup]
    exact h b hb

end Folded

/-- **A plan folds every group along its order.** -/
theorem folded_planFrom (rules : List MergeRule) (l : List Placed) (hl : (l.map Prod.fst).Nodup)
    {f : Placed → MergeTree Placed} (hroot : ∀ b ∈ l, (f b).root = b) {slots : List (Option (MergeTree Placed))}
    (hf : ∀ b ∈ l, slots[b.1]? = some (some (f b))) :
    Folded rules l f ((planFrom rules l).foldl (carry .merged) slots) := by
  fun_induction planFrom rules l generalizing f slots with
  | case1 => exact fun b hb => absurd hb List.not_mem_nil
  | case2 a rest ih =>
    obtain ⟨hne, htail, hfilter⟩ := Planned.nodup_tail hl
    obtain ⟨hra, hrootrest⟩ := List.forall_mem_cons.1 hroot
    obtain ⟨hfa, hfrest⟩ := List.forall_mem_cons.1 hf
    have hgone : a.1 ∉ rest.map Prod.fst := fun hm => by
      obtain ⟨b, hb, he⟩ := List.mem_map.1 hm
      exact hne b hb he.symm
    rw [List.foldl_append]
    cases hpref : preferred rules a.2 with
    | true =>
      rw [planRow_of_preferred hpref] at ih ⊢
      refine Folded.absorbs hne htail hra hpref ?_ (ih (hfilter _) (fun b hb => ?_) fun b hb => ?_)
      · rw [getElem?_planFrom (hfilter _) fun hm => hgone ((List.filter_sublist.map _).subset hm)]
        exact foldl_carry_row (fun b hb => hne b (List.mem_of_mem_filter hb)) (hfilter _) hfa
          fun b hb => hfrest b (List.mem_of_mem_filter hb)
      · exact hrootrest b (List.mem_of_mem_filter hb)
      · -- the row has named the first place and what is linked to it
        obtain ⟨hb, hnl⟩ := List.mem_filter.1 hb
        rw [getElem?_foldl_carry, hfrest b hb]
        intro s hs
        obtain ⟨d, hd, rfl⟩ := List.mem_map.1 hs
        obtain ⟨hd, hdl⟩ := List.mem_filter.1 hd
        refine ⟨hne b hb, fun he => ?_⟩
        rw [eq_of_fst_eq htail hd hb he] at hdl
        simp [hdl] at hnl
    | false =>
      rw [planRow_of_not_preferred hpref] at ih ⊢
      cases hfind : rest.find? (linked rules a.2 ·.2) with
      | none =>
        refine Folded.alone hne htail hra (by simpa using hfind) ?_ (ih htail hrootrest hfrest)
        rw [getElem?_planFrom htail hgone]
        exact hfa
      | some c =>
        have hc : c ∈ rest := List.mem_of_find?_eq_some hfind
        refine Folded.yields hne htail hra hpref hfind (ih htail (fun b hb => ?_) fun b hb => ?_)
        · split
          · next he => exact (hrootrest c hc).trans (eq_of_fst_eq htail hb hc he).symm
          · exact hrootrest b hb
        · have hstep : [(⟨c.1, a.1⟩ : MergeStep)].foldl (carry .merged) slots =
              (slots.set a.1 none).set c.1 (some (.merged (f c) (f a))) :=
            carry_of_filled (hne c hc).symm (hfrest c hc) hfa
          show ([(⟨c.1, a.1⟩ : MergeStep)].foldl (carry .merged) slots)[b.1]? = _
          have hlt : c.1 < slots.length := (List.getElem?_eq_some_iff.1 (hfrest c hc)).1
          rw [hstep]
          split
          · next he => rw [he, List.getElem?_set_self (by simpa using hlt)]
          · next he => rw [List.getElem?_set_ne (Ne.symm he), List.getElem?_set_ne (hne b hb), hfrest b hb]

/-! ## Working sets -/

/-- **Each tree of a merge is its group folded along its order.** -/
theorem mergedTree_eq {deps : List Dependency} {t : MergeTree Placed} (ht : t ∈ mergedTrees rules deps) :
    foldGroup rules ((group rules deps t.root).map .record) = some t := by
  have hstart : ∀ b ∈ places deps, ((places deps).map fun b => some (MergeTree.record b))[b.1]? =
      some (some (.record b)) := fun b hb => by
    rw [List.getElem?_map, getElem?_places, mem_places.1 hb]
    rfl
  obtain ⟨u, hu, hslot⟩ := folded_planFrom rules (places deps) (nodup_fst_places deps) (fun _ _ => rfl) hstart t.root
    (root_mem_places ht)
  have hum : u ∈ mergedTrees rules deps :=
    List.reduceOption_mem_iff.2 (List.mem_of_getElem? (show (trees (plan rules deps) deps)[u.root.1]? = _ from hslot))
  have hmem : t.root ∈ u.members := by
    refine (members_foldGroup hu).symm.subset ?_
    rw [List.flatMap_map]
    exact List.mem_flatMap.2 ⟨t.root, self_mem_groupIn (root_mem_places ht), List.mem_singleton_self _⟩
  obtain rfl := eq_of_together ht hum (together_root hum hmem)
  exact hu

end DependencyEvidence
