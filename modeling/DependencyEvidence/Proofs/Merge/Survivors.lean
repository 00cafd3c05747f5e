import DependencyEvidence.Proofs.Merge.Plan

/-!
# Survivors

Merging a working set leaves one dependency of each group. The trees of the run say which one and what it holds:

* the root of each tree is the keeper of its group (`keeper_root`), since a plan empties all other places;
* the members of each tree are its group (`members_perm_group`), since all steps stay within groups, and two trees are
  never of the same one (`eq_of_together`);
* so nothing is linked any more, and a plan for what is left is empty (`plan_mergeAll`).
-/

namespace DependencyEvidence

open MergeStep

variable (rules : List MergeRule) (deps : List Dependency)

/-! ## The plan of a working set -/

theorem planned_plan : Planned rules (places deps) (plan rules deps) := planned_planFrom rules (places deps)

theorem plan_links {s : MergeStep} (hs : s ∈ plan rules deps) :
    ∃ x ∈ places deps, ∃ y ∈ places deps, s = ⟨x.1, y.1⟩ ∧ x.1 ≠ y.1 ∧ linked rules x.2 y.2 = true :=
  (planned_plan rules deps).links (nodup_fst_places deps) s hs

theorem fst_lt_of_mem_places {deps : List Dependency} {b : Placed} (hb : b ∈ places deps) : b.1 < deps.length :=
  (List.getElem?_eq_some_iff.1 (mem_places.1 hb)).1

theorem plan_wellFormed : WellFormed deps.length (plan rules deps) where
  bounds s hs := by
    obtain ⟨x, hx, y, hy, rfl, -⟩ := plan_links rules deps hs
    exact ⟨fst_lt_of_mem_places hx, fst_lt_of_mem_places hy⟩
  distinct s hs := by
    obtain ⟨x, -, y, -, rfl, hne, -⟩ := plan_links rules deps hs
    exact hne
  fresh := (planned_plan rules deps).fresh (nodup_fst_places deps)

/-- The places that a plan empties are those that are not the keeper of their group. -/
theorem mem_emptied_plan_iff {b : Placed} (hb : b ∈ places deps) :
    b.1 ∈ emptied (plan rules deps) deps ↔ keeper rules (group rules deps b) ≠ some b := by
  rw [(emptied_of_wellFormed _ deps (plan_wellFormed rules deps)).mem_iff]
  exact (planned_plan rules deps).secondary_iff (nodup_fst_places deps) b hb

/-! ## Steps within groups -/

/-- Steps between linked places give trees of linked records. -/
theorem linked_root {steps : List MergeStep} (h : ∀ s ∈ steps, ∃ x ∈ places deps, ∃ y ∈ places deps,
    s = ⟨x.1, y.1⟩ ∧ x.1 ≠ y.1 ∧ linked rules x.2 y.2 = true) {k : Nat} {t : MergeTree Placed}
    (ht : (trees steps deps)[k]? = some (some t)) {b : Placed} (hb : b ∈ t.members) :
    b = t.root ∨ linked rules b.2 t.root.2 = true := by
  induction steps using List.reverseRecOn generalizing k t b with
  | nil =>
    rw [trees, List.foldl_nil, List.getElem?_map, Option.map_eq_some_iff] at ht
    obtain ⟨c, -, hc⟩ := ht
    obtain rfl := Option.some.inj hc
    exact .inl (List.mem_singleton.1 hb)
  | append_singleton steps s ih =>
    have hsteps := fun t ht => h t (List.mem_append_left [s] ht)
    have hstep : trees (steps ++ [s]) deps = carry .merged (trees steps deps) s := by
      rw [trees, List.foldl_append]
      rfl
    rw [hstep] at ht
    rcases carry_cases .merged (trees steps deps) s with ⟨-, he⟩ | ⟨-, p, q, hp, hq, he⟩
    · rw [he] at ht
      exact ih hsteps ht hb
    · rw [he] at ht
      rcases (getElem?_merge hp).1 ht with ⟨rfl, rfl⟩ | ⟨-, -, ht⟩
      · -- the tree of the step: its members are those of two trees with linked roots
        obtain ⟨x, hx, y, hy, rfl, -, hxy⟩ := h s (List.mem_append_right _ (List.mem_singleton_self s))
        have hproot : p.root = x := root_eq steps deps hx hp
        have hqroot : q.root = y := root_eq steps deps hy hq
        rcases List.mem_append.1 hb with hb | hb
        · exact ih hsteps hp hb
        · refine .inr ?_
          show linked rules b.2 p.root.2 = true
          rw [hproot]
          rcases ih hsteps hq hb with rfl | hl
          · rw [hqroot]
            exact linked_symm hxy
          · rw [hqroot] at hl
            exact linked_trans hl (linked_symm hxy)
      · exact ih hsteps ht hb

/-! ## The trees of a merge -/

/-- How the dependencies that are left after merging came together. -/
def mergedTrees : List (MergeTree Placed) := mergeForest (plan rules deps) deps

theorem mergeAll_eq : mergeAll rules deps = (mergedTrees rules deps).map MergeTree.survivor := applyAll_eq _ deps

section Trees

variable {rules deps} {t u : MergeTree Placed}

theorem mem_places_of_mem_members (ht : t ∈ mergedTrees rules deps) {b : Placed} (hb : b ∈ t.members) :
    b ∈ places deps :=
  mem_places_of_mem_mergeForest (plan rules deps) deps ht hb

theorem root_mem_places (ht : t ∈ mergedTrees rules deps) : t.root ∈ places deps :=
  mem_places_of_mem_members ht t.root_mem_members

/-- Each record is in some tree. -/
theorem exists_mem_members {b : Placed} (hb : b ∈ places deps) : ∃ t ∈ mergedTrees rules deps, b ∈ t.members :=
  List.mem_flatMap.1 ((members_mergeForest (plan rules deps) deps).symm.subset hb)

theorem together_root (ht : t ∈ mergedTrees rules deps) {b : Placed} (hb : b ∈ t.members) :
    together rules b t.root = true := by
  obtain ⟨k, hk⟩ := List.mem_iff_getElem?.1 (List.reduceOption_mem_iff.1 ht)
  rw [together_iff (mem_places_of_mem_members ht hb) (root_mem_places ht)]
  exact linked_root rules deps (fun s hs => plan_links rules deps hs) hk hb

/-- The root of a tree is the keeper of its group. -/
theorem keeper_root (ht : t ∈ mergedTrees rules deps) : keeper rules (group rules deps t.root) = some t.root := by
  have hroot : t.root ∈ (mergedTrees rules deps).map MergeTree.root := List.mem_map_of_mem ht
  rw [mergedTrees, map_root_mergeForest] at hroot
  have hfilled : t.root.1 ∉ emptied (plan rules deps) deps := by simpa using (List.mem_filter.1 hroot).2
  rw [mem_emptied_plan_iff rules deps (root_mem_places ht)] at hfilled
  exact not_not.1 hfilled

theorem group_congr {b c : Placed} (hb : b ∈ places deps) (hc : c ∈ places deps) (h : together rules b c = true) :
    group rules deps b = group rules deps c := by
  refine List.filter_congr fun d hd => Bool.eq_iff_iff.2 ⟨fun k => ?_, fun k => ?_⟩
  · exact together_trans hc hb hd (together_symm hb hc h) k
  · exact together_trans hb hc hd h k

variable (rules deps) in
/-- The places that are left ascend. -/
theorem pairwise_root : ((mergedTrees rules deps).map (·.root.1)).Pairwise (· < ·) := by
  have hroots : (mergedTrees rules deps).map (·.root.1) =
      ((mergedTrees rules deps).map MergeTree.root).map Prod.fst :=
    List.map_map.symm
  rw [hroots, mergedTrees, map_root_mergeForest]
  refine List.Pairwise.sublist (List.filter_sublist.map _) ?_
  rw [map_fst_places]
  exact List.pairwise_lt_range

variable (rules deps) in
theorem nodup_root : ((mergedTrees rules deps).map MergeTree.root).Nodup := by
  have h := (pairwise_root rules deps).imp fun h => Nat.ne_of_lt h
  rw [List.pairwise_map] at h
  exact List.pairwise_map.2 (h.imp fun hne he => hne (congrArg Prod.fst he))

/-- No two trees are of the same group. -/
theorem eq_of_together (ht : t ∈ mergedTrees rules deps) (hu : u ∈ mergedTrees rules deps)
    (h : together rules t.root u.root = true) : t = u := by
  have hroot : some t.root = some u.root := by
    rw [← keeper_root ht, ← keeper_root hu, group_congr (root_mem_places ht) (root_mem_places hu) h]
  exact List.inj_on_of_nodup_map (nodup_root rules deps) ht hu (Option.some.inj hroot)

/-- A tree holds the members of its group. -/
theorem mem_members_iff (ht : t ∈ mergedTrees rules deps) {b : Placed} :
    b ∈ t.members ↔ b ∈ places deps ∧ together rules b t.root = true := by
  constructor
  · exact fun hb => ⟨mem_places_of_mem_members ht hb, together_root ht hb⟩
  · rintro ⟨hb, htog⟩
    obtain ⟨u, hu, hbu⟩ := @exists_mem_members rules deps b hb
    have hsame : together rules u.root t.root = true :=
      together_trans (root_mem_places hu) hb (root_mem_places ht)
        (together_symm hb (root_mem_places hu) (together_root hu hbu)) htog
    exact eq_of_together hu ht hsame ▸ hbu

theorem members_perm_group (ht : t ∈ mergedTrees rules deps) : t.members.Perm (group rules deps t.root) := by
  have hplaces : (places deps).Nodup := (nodup_fst_places deps).of_map
  have hall := (members_mergeForest (plan rules deps) deps).nodup_iff.2 hplaces
  have hmembers : t.members.Nodup := (List.nodup_flatMap.1 hall).1 t ht
  refine (List.perm_ext_iff_of_nodup hmembers (hplaces.filter _)).2 fun b => ?_
  rw [mem_members_iff ht, List.mem_filter]
  refine and_congr_right fun hb => ⟨together_symm hb (root_mem_places ht), together_symm (root_mem_places ht) hb⟩

/-- A record that is alone in its group is left as it was. -/
theorem survivor_of_alone (ht : t ∈ mergedTrees rules deps) (h : group rules deps t.root = [t.root]) :
    t.survivor = t.root.2 := by
  have hmembers : t.members = [t.root] := List.perm_singleton.1 (h ▸ members_perm_group ht)
  have hrecord := MergeTree.eq_record_of_members hmembers
  rw [hrecord]
  rfl

end Trees

/-! ## The main statement -/

/-- What is left is not linked any more. -/
theorem plan_mergeAll : plan rules (mergeAll rules deps) = [] := by
  refine List.eq_nil_iff_forall_not_mem.2 fun s hs => ?_
  obtain ⟨x, hx, y, hy, -, hne, hl⟩ := plan_links rules _ hs
  rw [mem_places, mergeAll_eq, List.getElem?_map, Option.map_eq_some_iff] at hx hy
  obtain ⟨t, ht, htx⟩ := hx
  obtain ⟨u, hu, huy⟩ := hy
  have htm := List.mem_of_getElem? ht
  have hum := List.mem_of_getElem? hu
  have hroots : linked rules t.root.2 u.root.2 = true := by
    rw [← linked_key t.key_survivor u.key_survivor, htx, huy]
    exact hl
  have htu : t = u :=
    eq_of_together htm hum ((together_iff (root_mem_places htm) (root_mem_places hum)).2 (.inr hroots))
  have hnodup : (mergedTrees rules deps).Nodup := (nodup_root rules deps).of_map
  have hx : x.1 < (mergedTrees rules deps).length := (List.getElem?_eq_some_iff.1 ht).1
  exact hne ((List.getElem?_inj hx hnodup).1 (ht.trans (htu ▸ hu.symm)))

/-- **Merging leaves one dependency of each group**, the keeper, with all other members folded into it. What is left is
in the order of the working set, a dependency that is alone in its group is left as it was, and there is nothing more to
merge. -/
theorem mergeAll_leaves_keepers :
    (∀ b ∈ places deps, ∀ c ∈ places deps, together rules b c = true ↔
      Relation.EqvGen (fun b c => b ∈ places deps ∧ c ∈ places deps ∧ linked rules b.2 c.2 = true) b c) ∧
    mergeAll rules deps = (mergedTrees rules deps).map MergeTree.survivor ∧
    ((mergedTrees rules deps).map (·.root.1)).Pairwise (· < ·) ∧
    (∀ b ∈ places deps, ∃! t, t ∈ mergedTrees rules deps ∧ together rules b t.root = true) ∧
    (∀ t ∈ mergedTrees rules deps,
      keeper rules (group rules deps t.root) = some t.root ∧
      t.members.Perm (group rules deps t.root) ∧
      t.survivor.key = t.root.2.key ∧
      (group rules deps t.root = [t.root] → t.survivor = t.root.2)) ∧
    plan rules (mergeAll rules deps) = [] := by
  refine ⟨fun b hb c hc => together_iff_eqvGen hb hc, mergeAll_eq rules deps, pairwise_root rules deps, fun b hb => ?_,
    fun t ht => ?_, plan_mergeAll rules deps⟩
  · obtain ⟨t, ht, hbt⟩ := @exists_mem_members rules deps b hb
    refine ⟨t, ⟨ht, together_root ht hbt⟩, ?_⟩
    rintro u ⟨hu, hbu⟩
    refine eq_of_together hu ht (together_trans (root_mem_places hu) hb (root_mem_places ht) ?_ (together_root ht hbt))
    exact together_symm hb (root_mem_places hu) hbu
  · exact ⟨keeper_root ht, members_perm_group ht, t.key_survivor, survivor_of_alone ht⟩

end DependencyEvidence
