import DependencyEvidence.Proofs.Merge.Survivors

/-!
# Plans take effect

A step is skipped where a place that it names is empty. No step of a plan is: behind well-formed steps, a step finds
both of its places filled (`slots_concat_of_wellFormed`), and since any part of a plan from its start is well-formed,
each step folds one dependency into another. So carrying the first steps out leaves one dependency less for each of them
(`length_applyAll_of_wellFormed`).
-/

namespace DependencyEvidence

open MergeStep

/-! ## Well-formed steps -/

section WellFormed

variable {n : Nat} {steps : List MergeStep} {deps : List Dependency} {s : MergeStep}

theorem MergeStep.WellFormed.take (h : WellFormed n steps) (k : Nat) : WellFormed n (steps.take k) where
  bounds s hs := h.bounds s (List.mem_of_mem_take hs)
  distinct s hs := h.distinct s (List.mem_of_mem_take hs)
  fresh := h.fresh.sublist (List.take_sublist k steps)

/-- A place that no step has emptied is filled. -/
theorem filled_of_not_mem_emptied {k : Nat} (hk : k < deps.length) (h : k ∉ emptied steps deps) :
    ∃ d, (slots steps deps)[k]? = some (some d) := by
  rcases hslot : (slots steps deps)[k]?.join with _ | d
  · exact absurd ((mem_emptied steps deps).2 ⟨hk, hslot⟩) h
  · exact ⟨d, join_eq_some.1 hslot⟩

/-- A step behind well-formed ones finds its second place filled, and its first one still when the second is emptied. -/
theorem slots_concat_of_wellFormed (h : WellFormed deps.length (steps ++ [s])) :
    ∃ p q, (slots steps deps)[s.secondary]? = some (some q) ∧
      ((slots steps deps).set s.secondary none)[s.primary]? = some (some p) ∧
      slots (steps ++ [s]) deps =
        ((slots steps deps).set s.secondary none).set s.primary (some (p.absorb q)) := by
  have hs : s ∈ steps ++ [s] := List.mem_append_right _ (List.mem_singleton_self s)
  have hbefore : WellFormed deps.length steps := by simpa using h.take steps.length
  -- the places that are empty are the second ones of the steps before
  have hfresh : ∀ k, (∀ t ∈ steps, t.secondary ≠ k) → k ∉ emptied steps deps := by
    intro k hk hm
    obtain ⟨t, ht, he⟩ := List.mem_map.1 ((emptied_of_wellFormed steps deps hbefore).subset hm)
    exact hk t ht he
  have hlast : ∀ t ∈ steps, t.secondary ≠ s.primary ∧ t.secondary ≠ s.secondary :=
    fun t ht => (List.pairwise_append.1 h.fresh).2.2 t ht s (List.mem_singleton_self s)
  obtain ⟨p, hp⟩ := filled_of_not_mem_emptied (h.bounds s hs).1 (hfresh _ fun t ht => (hlast t ht).1)
  obtain ⟨q, hq⟩ := filled_of_not_mem_emptied (h.bounds s hs).2 (hfresh _ fun t ht => (hlast t ht).2)
  have hne : s.primary ≠ s.secondary := h.distinct s hs
  refine ⟨p, q, hq, by rw [List.getElem?_set_ne hne.symm, hp], ?_⟩
  rw [slots_concat, apply_eq_carry]
  rcases carry_cases Dependency.absorb (slots steps deps) s with ⟨hidle, -⟩ | ⟨-, p', q', hp', hq', he⟩
  · rcases hidle with he | he | he
    · exact absurd he hne
    · simp [hp] at he
    · simp [hq] at he
  · obtain rfl : p' = p := by simpa [hp] using hp'.symm
    obtain rfl : q' = q := by simpa [hq] using hq'.symm
    exact he

/-- What is left and what was folded away are all there was. -/
theorem length_applyAll (steps : List MergeStep) (deps : List Dependency) :
    (applyAll steps deps).length + (emptied steps deps).length = deps.length := by
  have hleft : (applyAll steps deps).length = ((mergeForest steps deps).map (·.root.1)).length := by
    rw [applyAll_eq, List.length_map, List.length_map]
  rw [hleft, map_place_mergeForest, ← List.length_append, (filter_emptied_perm steps deps).length_eq, List.length_range]

theorem length_applyAll_of_wellFormed (h : WellFormed deps.length steps) :
    (applyAll steps deps).length + steps.length = deps.length := by
  have hemptied : (emptied steps deps).length = steps.length := by
    rw [(emptied_of_wellFormed steps deps h).length_eq, List.length_map]
  rw [← hemptied, length_applyAll]

end WellFormed

/-! ## The main statement -/

variable (rules : List MergeRule) (deps : List Dependency)

/-- Each step of a plan joins two dependencies that some rule recognises. -/
theorem exists_joins_of_mem_plan {s : MergeStep} (hs : s ∈ plan rules deps) :
    ∃ a b, deps[s.primary]? = some a ∧ deps[s.secondary]? = some b ∧ ∃ r ∈ rules, r.joins a b = true := by
  obtain ⟨x, hx, y, hy, rfl, -, hl⟩ := plan_links rules deps hs
  exact ⟨x.2, y.2, mem_places.1 hx, mem_places.1 hy, linked_iff.1 hl⟩

/-- **Every step of a plan takes effect.**

* A plan is well-formed: its steps are on places of the working set, each has two different ones, and none names a place
  that an earlier one has emptied.
* Some rule recognises the two dependencies of a step.
* When its turn comes, the second place of a step is filled, and so is the first one once the second is emptied; the
  step folds the one dependency into the other.
* So the first steps leave one dependency less for each of them. -/
theorem plan_takes_effect :
    WellFormed deps.length (plan rules deps) ∧
    (∀ s ∈ plan rules deps, ∃ a b, deps[s.primary]? = some a ∧ deps[s.secondary]? = some b ∧
      ∃ r ∈ rules, r.joins a b = true) ∧
    (∀ k s, (plan rules deps)[k]? = some s →
      ∃ p q, (slots ((plan rules deps).take k) deps)[s.secondary]? = some (some q) ∧
        ((slots ((plan rules deps).take k) deps).set s.secondary none)[s.primary]? = some (some p) ∧
        slots ((plan rules deps).take (k + 1)) deps =
          ((slots ((plan rules deps).take k) deps).set s.secondary none).set s.primary (some (p.absorb q))) ∧
    ∀ k ≤ (plan rules deps).length, (applyAll ((plan rules deps).take k) deps).length + k = deps.length := by
  have hplan := plan_wellFormed rules deps
  refine ⟨hplan, fun s hs => exists_joins_of_mem_plan rules deps hs, fun k s hk => ?_, fun k hk => ?_⟩
  · have hnext : (plan rules deps).take (k + 1) = (plan rules deps).take k ++ [s] := by
      rw [List.take_add_one, hk]
      rfl
    have hprefix := hplan.take (k + 1)
    rw [hnext] at hprefix ⊢
    exact slots_concat_of_wellFormed hprefix
  · have hlength := length_applyAll_of_wellFormed (hplan.take k)
    rwa [List.length_take_of_le hk] at hlength

end DependencyEvidence
