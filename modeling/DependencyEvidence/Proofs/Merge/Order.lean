import DependencyEvidence.Proofs.Merge.Survivors
import Mathlib.Data.List.OfFn
import Mathlib.Logic.Equiv.Defs

/-!
# Merging in another order

The plan for a working set depends on its order, and so do the survivors. The groups do not: `origin` sends the places
of a reordered working set to those from which they were filled, and keeps who is together with whom
(`together_origin`). So the trees of both runs hold the same records (`members_origin`), there are as many of them
(`length_mergedTrees_reordered`), and corresponding survivors say the same on each axis, since joining the maps of the
members does not depend on their order (`toMap_survivor_origin`).
-/

namespace DependencyEvidence

/-! ## Reordered working sets -/

section Reordered

variable {deps : List Dependency} (σ : Equiv.Perm (Fin deps.length))

variable (deps) in
/-- The working set with the dependency of place `σ i` at place `i`. -/
def reordered (σ : Equiv.Perm (Fin deps.length)) : List Dependency := List.ofFn fun i => deps[σ i]

/-- Where the dependency of a place comes from. -/
def origin (b : Placed) : Placed := (if h : b.1 < deps.length then σ ⟨b.1, h⟩ else b.1, b.2)

theorem origin_place (i : Fin deps.length) (d : Dependency) : origin σ (↑i, d) = (↑(σ i), d) := by
  rw [origin, dif_pos i.isLt]

theorem mem_places_reordered {b : Placed} :
    b ∈ places (reordered deps σ) ↔ ∃ i : Fin deps.length, b = (↑i, deps[σ i]) := by
  rw [mem_places, reordered, List.getElem?_ofFn]
  constructor
  · intro h
    split at h
    · next hlt => exact ⟨⟨b.1, hlt⟩, Prod.ext rfl (Option.some.inj h).symm⟩
    · cases h
  · rintro ⟨i, rfl⟩
    rw [dif_pos i.isLt]

theorem origin_injOn {b c : Placed} (hb : b ∈ places (reordered deps σ)) (hc : c ∈ places (reordered deps σ))
    (h : origin σ b = origin σ c) : b = c := by
  obtain ⟨i, rfl⟩ := (mem_places_reordered σ).1 hb
  obtain ⟨j, rfl⟩ := (mem_places_reordered σ).1 hc
  rw [origin_place, origin_place] at h
  have hij : i = j := σ.injective (Fin.ext (congrArg Prod.fst h))
  rw [hij]

/-- Every place is the origin of one place. -/
theorem map_origin_places : ((places (reordered deps σ)).map (origin σ)).Perm (places deps) := by
  have hbefore : ((places (reordered deps σ)).map (origin σ)).Nodup :=
    (nodup_fst_places _).of_map.map_on fun b hb c hc h => origin_injOn σ hb hc h
  refine (List.perm_ext_iff_of_nodup hbefore (nodup_fst_places deps).of_map).2 fun c => ?_
  rw [List.mem_map]
  constructor
  · rintro ⟨b, hb, rfl⟩
    obtain ⟨i, rfl⟩ := (mem_places_reordered σ).1 hb
    rw [origin_place, mem_places]
    exact List.getElem?_eq_getElem (σ i).isLt
  · intro hc
    obtain ⟨hlt, hget⟩ := List.getElem?_eq_some_iff.1 (mem_places.1 hc)
    refine ⟨(↑(σ.symm ⟨c.1, hlt⟩), c.2), (mem_places_reordered σ).2 ⟨σ.symm ⟨c.1, hlt⟩, ?_⟩, ?_⟩
    · simp [← hget]
    · rw [origin_place, Equiv.apply_symm_apply]

theorem origin_mem_places {b : Placed} (hb : b ∈ places (reordered deps σ)) : origin σ b ∈ places deps :=
  (map_origin_places σ).subset (List.mem_map_of_mem hb)

variable {rules : List MergeRule}

theorem together_origin {b c : Placed} (hb : b ∈ places (reordered deps σ)) (hc : c ∈ places (reordered deps σ)) :
    together rules (origin σ b) (origin σ c) = together rules b c := by
  rw [Bool.eq_iff_iff, together_iff hb hc, together_iff (origin_mem_places σ hb) (origin_mem_places σ hc)]
  exact or_congr_left ⟨origin_injOn σ hb hc, congrArg (origin σ)⟩

/-- Reordering a working set reorders its groups. -/
theorem map_origin_group {b : Placed} (hb : b ∈ places (reordered deps σ)) :
    ((group rules (reordered deps σ) b).map (origin σ)).Perm (group rules deps (origin σ b)) := by
  have hgroup : group rules (reordered deps σ) b =
      (places (reordered deps σ)).filter (together rules (origin σ b) ∘ origin σ) :=
    List.filter_congr fun c hc => (together_origin σ hb hc).symm
  rw [hgroup, ← List.filter_map]
  exact (map_origin_places σ).filter _

end Reordered

/-! ## Corresponding trees -/

section Trees

variable {rules : List MergeRule} {deps : List Dependency} {t u : MergeTree Placed}

theorem group_of_mem_members (ht : t ∈ mergedTrees rules deps) {b : Placed} (hb : b ∈ t.members) :
    t.members.Perm (group rules deps b) := by
  rw [group_congr (mem_places_of_mem_members ht hb) (root_mem_places ht) (together_root ht hb)]
  exact members_perm_group ht

theorem eq_of_mem_members (ht : t ∈ mergedTrees rules deps) (hu : u ∈ mergedTrees rules deps) {b : Placed}
    (hbt : b ∈ t.members) (hbu : b ∈ u.members) : t = u := by
  have hb := mem_places_of_mem_members ht hbt
  exact eq_of_together ht hu (together_trans (root_mem_places ht) hb (root_mem_places hu)
    (together_symm hb (root_mem_places ht) (together_root ht hbt)) (together_root hu hbu))

/-- The survivor of a group says on each axis what its members said together. -/
theorem toMap_survivor (ht : t ∈ mergedTrees rules deps) (a : Axis) :
    (t.survivor.evidence a).toMap = .join ((group rules deps t.root).map fun b => (b.2.evidence a).toMap) := by
  rw [MergeTree.survivor, MergeTree.toMap_evidence_dependency]
  exact EvidenceMap.join_perm ((members_perm_group ht).map _)

variable (rules) in
/-- Whether merging brings two records together. -/
def EndTogether (deps : List Dependency) (b c : Placed) : Prop :=
  ∃ t ∈ mergedTrees rules deps, b ∈ t.members ∧ c ∈ t.members

variable (σ : Equiv.Perm (Fin deps.length))

/-- Trees that share one record hold the same ones. -/
theorem members_origin (ht : t ∈ mergedTrees rules (reordered deps σ)) (hu : u ∈ mergedTrees rules deps)
    {b : Placed} (hbt : b ∈ t.members) (hbu : origin σ b ∈ u.members) :
    (t.members.map (origin σ)).Perm u.members :=
  ((group_of_mem_members ht hbt).map _).trans
    ((map_origin_group σ (mem_places_of_mem_members ht hbt)).trans (group_of_mem_members hu hbu).symm)

theorem toMap_survivor_origin (ht : t ∈ mergedTrees rules (reordered deps σ)) (hu : u ∈ mergedTrees rules deps)
    {b : Placed} (hbt : b ∈ t.members) (hbu : origin σ b ∈ u.members) (a : Axis) :
    (t.survivor.evidence a).toMap = (u.survivor.evidence a).toMap := by
  have hkept : t.members.map (fun m => (m.2.evidence a).toMap) =
      (t.members.map (origin σ)).map fun m => (m.2.evidence a).toMap := by
    rw [List.map_map]
    rfl
  rw [MergeTree.survivor, MergeTree.survivor, MergeTree.toMap_evidence_dependency, MergeTree.toMap_evidence_dependency,
    hkept]
  exact EvidenceMap.join_perm ((members_origin σ ht hu hbt hbu).map _)

/-- Each tree has a corresponding one. -/
theorem exists_origin_mem (ht : t ∈ mergedTrees rules (reordered deps σ)) :
    ∃ u ∈ mergedTrees rules deps, origin σ t.root ∈ u.members :=
  exists_mem_members (origin_mem_places σ (root_mem_places ht))

theorem exists_mem_origin (hu : u ∈ mergedTrees rules deps) :
    ∃ t ∈ mergedTrees rules (reordered deps σ), ∃ b ∈ t.members, origin σ b = u.root := by
  obtain ⟨b, hb, he⟩ := List.mem_map.1 ((map_origin_places σ).symm.subset (root_mem_places hu))
  obtain ⟨t, ht, hbt⟩ := @exists_mem_members rules (reordered deps σ) b hb
  exact ⟨t, ht, b, hbt, he⟩

theorem endTogether_origin {b c : Placed} (hb : b ∈ places (reordered deps σ)) (hc : c ∈ places (reordered deps σ)) :
    EndTogether rules (reordered deps σ) b c ↔ EndTogether rules deps (origin σ b) (origin σ c) := by
  constructor
  · rintro ⟨t, ht, hbt, hct⟩
    obtain ⟨u, hu, hbu⟩ := @exists_mem_members rules deps _ (origin_mem_places σ hb)
    exact ⟨u, hu, hbu, (members_origin σ ht hu hbt hbu).subset (List.mem_map_of_mem hct)⟩
  · rintro ⟨u, hu, hbu, hcu⟩
    obtain ⟨t, ht, hbt⟩ := @exists_mem_members rules (reordered deps σ) b hb
    obtain ⟨c', hct, he⟩ := List.mem_map.1 ((members_origin σ ht hu hbt hbu).symm.subset hcu)
    obtain rfl := origin_injOn σ (mem_places_of_mem_members ht hct) hc he
    exact ⟨t, ht, hbt, hct⟩

/-- Only one tree corresponds to a tree. -/
theorem eq_of_origin_mem {t' : MergeTree Placed} (ht : t ∈ mergedTrees rules (reordered deps σ))
    (ht' : t' ∈ mergedTrees rules (reordered deps σ)) (hu : u ∈ mergedTrees rules deps)
    (h : origin σ t.root ∈ u.members) (h' : origin σ t'.root ∈ u.members) : t = t' := by
  obtain ⟨s, hs, hts, hts'⟩ := (endTogether_origin σ (root_mem_places ht) (root_mem_places ht')).2 ⟨u, hu, h, h'⟩
  rw [eq_of_mem_members ht hs t.root_mem_members hts, eq_of_mem_members ht' hs t'.root_mem_members hts']

variable (rules) in
/-- There are as many trees: one for each tree of the other run. -/
theorem length_mergedTrees_reordered :
    (mergedTrees rules (reordered deps σ)).length = (mergedTrees rules deps).length := by
  have hexists : ∀ t, ∃ u, t ∈ mergedTrees rules (reordered deps σ) →
      u ∈ mergedTrees rules deps ∧ origin σ t.root ∈ u.members := fun t => by
    by_cases ht : t ∈ mergedTrees rules (reordered deps σ)
    · obtain ⟨u, hu⟩ := exists_origin_mem σ ht
      exact ⟨u, fun _ => hu⟩
    · exact ⟨t, fun h => absurd h ht⟩
  choose other hother using hexists
  have hnodup : ((mergedTrees rules (reordered deps σ)).map other).Nodup := by
    refine (nodup_root _ _).of_map.map_on fun t ht t' ht' he => ?_
    exact eq_of_origin_mem σ ht ht' (hother t ht).1 (hother t ht).2 (he ▸ (hother t' ht').2)
  have hperm : ((mergedTrees rules (reordered deps σ)).map other).Perm (mergedTrees rules deps) := by
    refine (List.perm_ext_iff_of_nodup hnodup (nodup_root _ _).of_map).2 fun u => ?_
    rw [List.mem_map]
    constructor
    · rintro ⟨t, ht, rfl⟩
      exact (hother t ht).1
    · intro hu
      obtain ⟨t, ht, b, hbt, he⟩ := exists_mem_origin σ hu
      obtain ⟨hu', hroot⟩ := hother t ht
      have hshared := (members_origin σ ht hu' t.root_mem_members hroot).subset (List.mem_map_of_mem hbt)
      rw [he] at hshared
      exact ⟨t, ht, eq_of_mem_members hu' hu hshared u.root_mem_members⟩
  rw [← List.length_map, hperm.length_eq]

end Trees

/-! ## The main statement -/

/-- **What merging says does not depend on the order of the working set.** A reordered working set has as many survivors
and the same partition into groups, and the survivors of a group say the same on each axis: the pointwise maximum of
what the members said. -/
theorem mergeAll_reordered (rules : List MergeRule) (deps : List Dependency) (σ : Equiv.Perm (Fin deps.length)) :
    (∀ l : List Dependency, mergeAll rules l = (mergedTrees rules l).map MergeTree.survivor ∧
      (∀ b ∈ places l, ∃! t, t ∈ mergedTrees rules l ∧ b ∈ t.members) ∧
      ∀ t ∈ mergedTrees rules l, ∀ a : Axis,
        (t.survivor.evidence a).toMap = .join ((group rules l t.root).map fun b => (b.2.evidence a).toMap)) ∧
    (mergeAll rules (reordered deps σ)).length = (mergeAll rules deps).length ∧
    (∀ b ∈ places (reordered deps σ), ∀ c ∈ places (reordered deps σ),
      EndTogether rules (reordered deps σ) b c ↔ EndTogether rules deps (origin σ b) (origin σ c)) ∧
    ∀ t ∈ mergedTrees rules (reordered deps σ), ∀ u ∈ mergedTrees rules deps, ∀ b ∈ t.members,
      origin σ b ∈ u.members → ∀ a : Axis, (t.survivor.evidence a).toMap = (u.survivor.evidence a).toMap := by
  refine ⟨fun l => ⟨mergeAll_eq rules l, fun b hb => ?_, fun t ht a => toMap_survivor ht a⟩, ?_,
    fun b hb c hc => endTogether_origin σ hb hc, fun t ht u hu b hbt hbu a => toMap_survivor_origin σ ht hu hbt hbu a⟩
  · obtain ⟨t, ht, hbt⟩ := @exists_mem_members rules l b hb
    exact ⟨t, ⟨ht, hbt⟩, fun u hu => eq_of_mem_members hu.1 ht hu.2 hbt⟩
  · rw [mergeAll_eq, mergeAll_eq, List.length_map, List.length_map, length_mergedTrees_reordered]

end DependencyEvidence
