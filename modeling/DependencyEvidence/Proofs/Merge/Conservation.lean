import DependencyEvidence.Proofs.Merge.Run

/-!
# Merging loses nothing

Whatever steps are carried out on a working set — repeated, idle, naming places that are empty already — each record of
the forest is still there once, and those that were folded into another one lie directly below a dependency that is
left (`applyAll_conserves`). The trees of `mergeForest` carry the argument: what holds of every tree (`keys_dependency`,
`related_dependency`, `nesting_dependency_le`) is summed up over a forest that holds each record once.
-/

namespace DependencyEvidence

open MergeStep

variable (steps : List MergeStep) (deps : List Dependency)

section Trees

variable {deps} {trees : List (MergeTree Placed)} (h : (trees.flatMap MergeTree.members).Perm (places deps))
include h

/-- A sum over all members of trees that hold each record once is a sum over the working set. -/
theorem flatMap_members {β : Type} (f : Dependency → List β) :
    (trees.flatMap fun t => t.members.flatMap fun b => f b.2).Perm (deps.flatMap f) := by
  have hplaces : (places deps).flatMap (fun b => f b.2) = deps.flatMap f := by
    rw [← List.flatMap_map, map_snd_places]
  rw [← List.flatMap_assoc, ← hplaces]
  exact h.flatMap_right _

/-- What is left of such trees has the records of the working set. -/
theorem keys_survivors :
    ((trees.map MergeTree.survivor).flatMap Dependency.keys).Perm (deps.flatMap Dependency.keys) := by
  rw [List.flatMap_map]
  exact (List.Perm.flatMap_left _ fun t _ => MergeTree.keys_dependency _ t).trans (flatMap_members h Dependency.keys)

end Trees

theorem keys_applyAll : ((applyAll steps deps).flatMap Dependency.keys).Perm (deps.flatMap Dependency.keys) := by
  rw [applyAll_eq]
  exact keys_survivors (members_mergeForest steps deps)

theorem relatedDepth_applyAll_le : relatedDepth (applyAll steps deps) ≤ max 1 (relatedDepth deps) := by
  refine relatedDepth_le.2 fun d hd => ?_
  rw [applyAll_eq] at hd
  obtain ⟨t, ht, rfl⟩ := List.mem_map.1 hd
  refine MergeTree.nesting_dependency_le _ t (Nat.le_max_left _ _) fun b hb => ?_
  have hb' : b.2 ∈ deps := List.mem_of_getElem? (mem_places.1 (mem_places_of_mem_mergeForest steps deps ht hb))
  exact Nat.le_trans (relatedDepth_le.1 (Nat.le_refl _) _ hb') (Nat.le_max_right _ _)

/-- The dependencies that were folded into another one, with their places, as they end. -/
def absorbedEntries : List (Nat × Dependency) :=
  (mergeForest steps deps).flatMap fun t => t.absorbed.map fun u => (u.root.1, u.survivor.takeRelated.2)

theorem map_fst_absorbedEntries : ((absorbedEntries steps deps).map Prod.fst).Perm (emptied steps deps) := by
  rw [absorbedEntries, List.map_flatMap]
  simpa [Function.comp_def] using absorbed_mergeForest steps deps

theorem related_applyAll :
    ((applyAll steps deps).flatMap (·.related)).Perm
      (deps.flatMap (·.related) ++ (absorbedEntries steps deps).map Prod.snd) := by
  rw [applyAll_eq, List.flatMap_map, absorbedEntries, List.map_flatMap]
  refine (List.Perm.flatMap_left _ fun t _ => MergeTree.related_dependency _ t).trans ?_
  refine (List.flatMap_append_perm _ _ _).symm.trans ((flatMap_members (members_mergeForest steps deps) _).append ?_)
  simp [Function.comp_def, MergeTree.survivor]

theorem absorbedEntries_key {e : Nat × Dependency} (he : e ∈ absorbedEntries steps deps) :
    e.2.related = [] ∧ ∃ d, deps[e.1]? = some d ∧ e.2.key = d.key := by
  obtain ⟨t, ht, he⟩ := List.mem_flatMap.1 he
  obtain ⟨u, hu, rfl⟩ := List.mem_map.1 he
  refine ⟨rfl, u.root.2, ?_, u.key_survivor⟩
  have hroot : u.root ∈ t.members :=
    t.members_perm.symm.subset (List.mem_cons_of_mem _ (List.mem_map_of_mem hu))
  exact mem_places.1 (mem_places_of_mem_mergeForest steps deps ht hroot)

/-- The places that are not empty hold the files that they held at first. -/
theorem map_key_applyAll :
    (applyAll steps deps).map (·.key) = ((places deps).filter (·.1 ∉ emptied steps deps)).map (·.2.key) := by
  rw [applyAll_eq, ← map_root_mergeForest, List.map_map, List.map_map]
  exact List.map_congr_left fun t _ => t.key_survivor

/-- **Whatever steps are carried out, nothing is lost or doubled.**

* The forest has the same records before and after.
* A step with one place for both sides, or with a place that is empty by then, changes nothing; any other one on places
  that exist empties its second place and no other.
* What is on top are the places that are not empty. The others are the entries, one for each emptied place, that the
  related lists have got, each in one list, once, and with nothing below it.
* Nothing is nested deeper than it was, or than one level. -/
theorem applyAll_conserves :
    ((applyAll steps deps).flatMap Dependency.keys).Perm (deps.flatMap Dependency.keys) ∧
    (∀ s : MergeStep, s.primary = s.secondary ∨ s.primary ∈ emptied steps deps ∨ s.secondary ∈ emptied steps deps →
      slots (steps ++ [s]) deps = slots steps deps) ∧
    (∀ s : MergeStep, s.primary ≠ s.secondary →
      s.primary < deps.length ∧ s.primary ∉ emptied steps deps →
      s.secondary < deps.length ∧ s.secondary ∉ emptied steps deps →
      (emptied (steps ++ [s]) deps).Perm (s.secondary :: emptied steps deps)) ∧
    (applyAll steps deps).map (·.key) = ((places deps).filter (·.1 ∉ emptied steps deps)).map (·.2.key) ∧
    (∃ entries : List (Nat × Dependency), (entries.map Prod.fst).Perm (emptied steps deps) ∧
      (∀ e ∈ entries, e.2.related = [] ∧ ∃ d, deps[e.1]? = some d ∧ e.2.key = d.key) ∧
      ((applyAll steps deps).flatMap (·.related)).Perm (deps.flatMap (·.related) ++ entries.map Prod.snd)) ∧
    relatedDepth (applyAll steps deps) ≤ max 1 (relatedDepth deps) :=
  ⟨keys_applyAll steps deps, fun _ h => slots_concat_of_idle steps deps h, fun _ => emptied_concat steps deps,
    map_key_applyAll steps deps,
    ⟨absorbedEntries steps deps, map_fst_absorbedEntries steps deps, fun _ he => absorbedEntries_key steps deps he,
      related_applyAll steps deps⟩,
    relatedDepth_applyAll_le steps deps⟩

end DependencyEvidence
