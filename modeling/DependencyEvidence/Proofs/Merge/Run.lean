import DependencyEvidence.Proofs.Merge.Tree
import Mathlib.Data.List.Induction
import Mathlib.Data.List.ReduceOption

/-!
# Runs of merge steps

What any list of steps does to a working set, whether a plan made it or not.

`MergeStep.apply` never looks into the dependencies that it folds together, so it is the instance at `Dependency.absorb`
of a step on slots of anything (`carry`). Carried out on trees, the same steps record their own history: `mergeForest`
has one `MergeTree` for each place that is still filled, and reading the trees gives the result (`applyAll_eq`).

* `carry_cases` says all that a step can do, and `reduceOption_merge` what that means for the contents.
* `RunInv` is the invariant of a run: each place keeps its own record at the root, and the trees together hold every
  record once.
-/

namespace DependencyEvidence

/-! ## Slots -/

section Slots

variable {α β : Type} {slots : List (Option α)}

/-- Filling a place with something else keeps the other contents. -/
theorem reduceOption_set_none {i : Nat} {x : α} (h : slots[i]? = some (some x)) :
    slots.reduceOption.Perm (x :: (slots.set i none).reduceOption) := by
  induction slots generalizing i with
  | nil => simp at h
  | cons o rest ih =>
    cases i with
    | zero =>
      obtain rfl : o = some x := by simpa using h
      simp
    | succ i =>
      have hrest := ih (by simpa using h)
      cases o with
      | none => simpa using hrest
      | some y => simpa using (hrest.cons y).trans (.swap x y _)

/-- Two contents go out and one comes in. -/
theorem reduceOption_merge {i j : Nat} {x y : α} (hij : i ≠ j) (hi : slots[i]? = some (some x))
    (hj : slots[j]? = some (some y)) (z : α) :
    ∃ rest, slots.reduceOption.Perm (x :: y :: rest) ∧
      ((slots.set j none).set i (some z)).reduceOption.Perm (z :: rest) := by
  have hx : (slots.set j none)[i]? = some (some x) := by rw [List.getElem?_set_ne hij.symm, hi]
  have hz : ((slots.set j none).set i (some z))[i]? = some (some z) := by
    obtain ⟨hlt, -⟩ := List.getElem?_eq_some_iff.1 hx
    rw [List.getElem?_set_self hlt]
  refine ⟨((slots.set j none).set i none).reduceOption, ?_, ?_⟩
  · exact (reduceOption_set_none hj).trans (((reduceOption_set_none hx).cons y).trans (.swap x y _))
  · simpa using reduceOption_set_none hz

/-- What a place holds after that. -/
theorem getElem?_merge {i j k : Nat} {x z t : α} (hi : slots[i]? = some (some x)) :
    ((slots.set j none).set i (some z))[k]? = some (some t) ↔
      (k = i ∧ t = z) ∨ (k ≠ i ∧ k ≠ j ∧ slots[k]? = some (some t)) := by
  obtain ⟨hlt, -⟩ := List.getElem?_eq_some_iff.1 hi
  rw [List.getElem?_set, List.getElem?_set]
  by_cases hki : i = k
  · subst hki
    simp [hlt, eq_comm]
  · by_cases hkj : j = k
    · subst hkj
      simp [hki, Ne.symm hki]
    · simp [hki, hkj, Ne.symm hki, Ne.symm hkj]

theorem reduceOption_map_some (f : β → α) (l : List β) : (l.map fun b => some (f b)).reduceOption = l.map f := by
  rw [List.reduceOption, List.filterMap_map]
  exact congrFun (List.filterMap_eq_map (f := f)) l

theorem reduceOption_map_guard (p : α → Bool) (l : List α) : (l.map (Option.guard p)).reduceOption = l.filter p := by
  rw [List.reduceOption, List.filterMap_map]
  exact congrFun (List.filterMap_eq_filter (p := p)) l

theorem join_eq_some {o : Option (Option α)} {x : α} : o.join = some x ↔ o = some (some x) := by
  rcases o with _ | _ | y <;> simp

end Slots

/-! ## One step -/

namespace MergeStep

section Carry

variable {α β : Type} (c : α → α → α) (slots : List (Option α)) (s : MergeStep)

/-- Carries a step out on places that hold anything, where `c` folds the second content into the first. -/
def carry : List (Option α) :=
  if s.primary = s.secondary then slots
  else match slots[s.primary]?.join, slots[s.secondary]?.join with
    | some p, some q => (slots.set s.secondary none).set s.primary (some (c p q))
    | _, _ => slots

theorem apply_eq_carry : apply = carry Dependency.absorb := by
  funext slots s
  unfold apply carry
  rcases slots[s.primary]?.join with _ | p <;> rcases slots[s.secondary]?.join with _ | q <;> rfl

/-- A step has no effect where its sides are one place, or one of them is empty. -/
def Idle : Prop := s.primary = s.secondary ∨ slots[s.primary]?.join = none ∨ slots[s.secondary]?.join = none

/-- **All that a step can do**: nothing, or fold what one place holds into what another one holds. -/
theorem carry_cases :
    (s.Idle slots ∧ carry c slots s = slots) ∨
    (s.primary ≠ s.secondary ∧ ∃ p q, slots[s.primary]? = some (some p) ∧ slots[s.secondary]? = some (some q) ∧
      carry c slots s = (slots.set s.secondary none).set s.primary (some (c p q))) := by
  by_cases hne : s.primary = s.secondary
  · exact .inl ⟨.inl hne, if_pos hne⟩
  rcases hp : slots[s.primary]?.join with _ | p
  · exact .inl ⟨.inr (.inl hp), by simp [carry, hne, hp]⟩
  rcases hq : slots[s.secondary]?.join with _ | q
  · exact .inl ⟨.inr (.inr hq), by simp [carry, hne, hp, hq]⟩
  · exact .inr ⟨hne, p, q, join_eq_some.1 hp, join_eq_some.1 hq, by simp [carry, hne, hp, hq]⟩

variable {c slots s}

theorem carry_of_idle (h : s.Idle slots) : carry c slots s = slots := by
  rcases carry_cases c slots s with ⟨-, he⟩ | ⟨hne, p, q, hp, hq, -⟩
  · exact he
  · rcases h with h | h | h
    · exact absurd h hne
    · rw [hp] at h; cases h
    · rw [hq] at h; cases h

/-- Steps do not look into what the places hold. -/
theorem carry_map {c' : β → β → β} (f : α → β) (hf : ∀ a b, f (c a b) = c' (f a) (f b)) :
    (carry c slots s).map (Option.map f) = carry c' (slots.map (Option.map f)) s := by
  have hget : ∀ i, (slots.map (Option.map f))[i]?.join = slots[i]?.join.map f := fun i => by
    rw [List.getElem?_map]
    rcases slots[i]? with _ | _ | x <;> rfl
  unfold carry
  rw [hget, hget]
  split
  · rfl
  · rcases slots[s.primary]?.join with _ | p <;> rcases slots[s.secondary]?.join with _ | q <;>
      simp [List.map_set, hf]

theorem foldl_carry_map {c' : β → β → β} (f : α → β) (hf : ∀ a b, f (c a b) = c' (f a) (f b))
    (steps : List MergeStep) (slots : List (Option α)) :
    (steps.foldl (carry c) slots).map (Option.map f) = steps.foldl (carry c') (slots.map (Option.map f)) := by
  induction steps generalizing slots with
  | nil => rfl
  | cons s rest ih => rw [List.foldl_cons, List.foldl_cons, ih, carry_map f hf]

/-- The places that are empty after a step: those that were, and the second side of a step that has an effect. -/
theorem join_carry_eq_none_iff {k : Nat} :
    (carry c slots s)[k]?.join = none ↔ slots[k]?.join = none ∨ (¬ s.Idle slots ∧ k = s.secondary) := by
  rcases carry_cases c slots s with ⟨hidle, he⟩ | ⟨hne, p, q, hp, hq, he⟩
  · simp [he, hidle]
  · have hidle : ¬ s.Idle slots := by simp [Idle, hne, hp, hq]
    rw [he, List.getElem?_set, List.getElem?_set]
    obtain ⟨hpl, hpe⟩ := List.getElem?_eq_some_iff.1 hp
    obtain ⟨hql, -⟩ := List.getElem?_eq_some_iff.1 hq
    by_cases hkp : s.primary = k
    · subst hkp
      simp [hpl, hpe, hne, hidle]
    · by_cases hkq : s.secondary = k
      · subst hkq
        simp [hkp, hql, hidle]
      · simp [hkp, hkq, Ne.symm hkq]

end Carry

end MergeStep

/-! ## Runs -/

/-- The dependencies of a working set with their places. -/
def places (deps : List Dependency) : List Placed := (List.range deps.length).zip deps

theorem getElem?_places (deps : List Dependency) (k : Nat) : (places deps)[k]? = deps[k]?.map (k, ·) := by
  rw [places, List.zip, List.getElem?_zipWith]
  rcases Nat.lt_or_ge k deps.length with h | h
  · simp [List.getElem?_range h, List.getElem?_eq_getElem h]
  · simp [List.getElem?_eq_none h]

theorem mem_places {deps : List Dependency} {b : Placed} : b ∈ places deps ↔ deps[b.1]? = some b.2 := by
  constructor
  · intro h
    obtain ⟨k, hk⟩ := List.mem_iff_getElem?.1 h
    rw [getElem?_places, Option.map_eq_some_iff] at hk
    obtain ⟨d, hd, rfl⟩ := hk
    exact hd
  · intro h
    exact List.mem_of_getElem? (show (places deps)[b.1]? = some b by rw [getElem?_places, h]; rfl)

theorem map_fst_places (deps : List Dependency) : (places deps).map Prod.fst = List.range deps.length :=
  List.map_fst_zip (by simp)

theorem map_snd_places (deps : List Dependency) : (places deps).map Prod.snd = deps :=
  List.map_snd_zip (by simp)

/-- The dependency of a tree of places. -/
def MergeTree.survivor (t : MergeTree Placed) : Dependency := t.dependency (·.2)

theorem MergeTree.key_survivor (t : MergeTree Placed) : t.survivor.key = t.root.2.key := t.key_dependency _

namespace MergeStep

/-- What the places hold after some steps. -/
def slots (steps : List MergeStep) (deps : List Dependency) : List (Option Dependency) :=
  steps.foldl apply (deps.map some)

/-- The places that the steps have emptied. -/
def emptied (steps : List MergeStep) (deps : List Dependency) : List Nat :=
  (List.range deps.length).filter fun k => (slots steps deps)[k]?.join.isNone

/-- How the contents of the places came together. -/
def trees (steps : List MergeStep) (deps : List Dependency) : List (Option (MergeTree Placed)) :=
  steps.foldl (carry .merged) ((places deps).map fun b => some (.record b))

end MergeStep

/-- How the dependencies that are left after some steps came together. -/
def mergeForest (steps : List MergeStep) (deps : List Dependency) : List (MergeTree Placed) :=
  (MergeStep.trees steps deps).reduceOption

section Runs

open MergeStep

variable (steps : List MergeStep) (deps : List Dependency)

theorem slots_eq_map_trees : slots steps deps = (trees steps deps).map (Option.map MergeTree.survivor) := by
  have hstart : deps.map some = ((places deps).map fun b => some (MergeTree.record b)).map
      (Option.map MergeTree.survivor) := by
    refine List.ext_getElem? fun k => ?_
    simp only [List.getElem?_map, getElem?_places]
    rcases deps[k]? with _ | d <;> rfl
  rw [slots, trees, apply_eq_carry, foldl_carry_map MergeTree.survivor (fun _ _ => rfl), hstart]

/-- Reading the trees gives what is left. -/
theorem applyAll_eq : applyAll steps deps = (mergeForest steps deps).map MergeTree.survivor := by
  show (slots steps deps).reduceOption = _
  rw [slots_eq_map_trees, List.reduceOption_map]
  rfl

theorem join_slots_eq_none_iff {k : Nat} : (slots steps deps)[k]?.join = none ↔ (trees steps deps)[k]?.join = none := by
  rw [slots_eq_map_trees, List.getElem?_map]
  rcases (trees steps deps)[k]? with _ | _ | t <;> simp

theorem mem_emptied {k : Nat} : k ∈ emptied steps deps ↔ k < deps.length ∧ (slots steps deps)[k]?.join = none := by
  simp [emptied]

theorem nodup_emptied : (emptied steps deps).Nodup := List.nodup_range.filter _

/-- **The invariant of a run**: a place that is filled holds its own record with others folded into it, and all trees
together hold each record once. -/
structure RunInv (deps : List Dependency) (ts : List (Option (MergeTree Placed))) : Prop where
  length : ts.length = deps.length
  root (k : Nat) (t : MergeTree Placed) : ts[k]? = some (some t) → (places deps)[k]? = some t.root
  members : (ts.reduceOption.flatMap MergeTree.members).Perm (places deps)

theorem RunInv.start : RunInv deps ((places deps).map fun b => some (.record b)) where
  length := by simp [places]
  root k t h := by
    rw [List.getElem?_map, Option.map_eq_some_iff] at h
    obtain ⟨b, hb, hbt⟩ := h
    rw [hb, ← Option.some.inj hbt]
    rfl
  members := by
    rw [reduceOption_map_some, List.flatMap_map]
    exact List.Perm.of_eq (List.flatMap_singleton' _)

theorem RunInv.carry {deps : List Dependency} {ts : List (Option (MergeTree Placed))} (h : RunInv deps ts)
    (s : MergeStep) : RunInv deps (MergeStep.carry .merged ts s) := by
  rcases carry_cases .merged ts s with ⟨-, he⟩ | ⟨hne, p, q, hp, hq, he⟩
  · rw [he]
    exact h
  rw [he]
  refine ⟨by simp [h.length], fun k t hk => ?_, ?_⟩
  · rcases (getElem?_merge hp).1 hk with ⟨rfl, rfl⟩ | ⟨-, -, hk⟩
    · exact h.root _ p hp
    · exact h.root k t hk
  · obtain ⟨rest, hbefore, hafter⟩ := reduceOption_merge hne hp hq (MergeTree.merged p q)
    have hsame : (MergeTree.members (.merged p q) ++ rest.flatMap MergeTree.members).Perm (places deps) := by
      refine List.Perm.trans ?_ h.members
      simpa [MergeTree.members] using (hbefore.flatMap_right MergeTree.members).symm
    exact (hafter.flatMap_right MergeTree.members).trans hsame

theorem runInv : RunInv deps (trees steps deps) := by
  suffices h : ∀ ts, RunInv deps ts → RunInv deps (steps.foldl (MergeStep.carry .merged) ts) from h _ (.start deps)
  intro ts h
  induction steps generalizing ts with
  | nil => exact h
  | cons s rest ih => exact ih _ (h.carry s)

/-- The root of the tree at a place is the record of that place. -/
theorem root_eq {x : Placed} (hx : x ∈ places deps) {t : MergeTree Placed}
    (ht : (trees steps deps)[x.1]? = some (some t)) : t.root = x := by
  have hroot := (runInv steps deps).root x.1 t ht
  rw [getElem?_places, mem_places.1 hx] at hroot
  exact (Option.some.inj hroot).symm

/-! ## What is left -/

/-- Each record is in exactly one tree. -/
theorem members_mergeForest : ((mergeForest steps deps).flatMap MergeTree.members).Perm (places deps) :=
  (runInv steps deps).members

theorem mem_places_of_mem_mergeForest {t : MergeTree Placed} (ht : t ∈ mergeForest steps deps) {b : Placed}
    (hb : b ∈ t.members) : b ∈ places deps :=
  (members_mergeForest steps deps).subset (List.mem_flatMap.2 ⟨t, ht, hb⟩)

/-- The trees that are left are those of the places that are not empty, in order. -/
theorem map_root_mergeForest :
    (mergeForest steps deps).map MergeTree.root = (places deps).filter (·.1 ∉ emptied steps deps) := by
  have hroots : (trees steps deps).map (Option.map MergeTree.root) =
      (places deps).map (Option.guard (·.1 ∉ emptied steps deps)) := by
    refine List.ext_getElem? fun k => ?_
    have hnone := @join_slots_eq_none_iff steps deps k
    rw [List.getElem?_map, List.getElem?_map]
    rcases ht : (trees steps deps)[k]? with _ | _ | t
    · have hk : deps.length ≤ k := (runInv steps deps).length ▸ List.getElem?_eq_none_iff.1 ht
      simp [getElem?_places, List.getElem?_eq_none hk]
    · obtain ⟨hk, -⟩ := List.getElem?_eq_some_iff.1 ht
      rw [(runInv steps deps).length] at hk
      have hmem : k ∈ emptied steps deps := (mem_emptied steps deps).2 ⟨hk, hnone.2 (by simp [ht])⟩
      simp [getElem?_places, List.getElem?_eq_getElem hk, Option.guard, hmem]
    · have hroot := (runInv steps deps).root k t ht
      have hplace : t.root.1 = k := by
        rw [getElem?_places, Option.map_eq_some_iff] at hroot
        obtain ⟨d, -, hd⟩ := hroot
        rw [← hd]
      have hmem : k ∉ emptied steps deps := fun hm => by
        have := hnone.1 ((mem_emptied steps deps).1 hm).2
        simp [ht] at this
      simp [hroot, hplace, hmem]
  rw [mergeForest, ← List.reduceOption_map, hroots, reduceOption_map_guard]

theorem map_place_mergeForest :
    (mergeForest steps deps).map (·.root.1) = (List.range deps.length).filter (· ∉ emptied steps deps) := by
  rw [← map_fst_places, List.filter_map]
  show (mergeForest steps deps).map (Prod.fst ∘ MergeTree.root) = _
  rw [← List.map_map, map_root_mergeForest]
  rfl

/-- The filled and the emptied places are all places. -/
theorem filter_emptied_perm :
    ((List.range deps.length).filter (· ∉ emptied steps deps) ++ emptied steps deps).Perm
      (List.range deps.length) := by
  have hgone : (List.range deps.length).filter (fun k => !decide (k ∉ emptied steps deps)) = emptied steps deps :=
    List.filter_congr fun k hk => by
      rw [Bool.eq_iff_iff]
      simp [mem_emptied, List.mem_range.1 hk]
  have hsplit := List.filter_append_perm (· ∉ emptied steps deps) (List.range deps.length)
  rwa [hgone] at hsplit

/-- Each place that was emptied is the root of exactly one tree that was folded into another. -/
theorem absorbed_mergeForest :
    ((mergeForest steps deps).flatMap fun t => t.absorbed.map (·.root.1)).Perm (emptied steps deps) := by
  -- all places are those of roots and of trees that were folded in, and they are the filled and the emptied ones
  have hall : ((mergeForest steps deps).map (·.root.1) ++
      (mergeForest steps deps).flatMap fun t => t.absorbed.map (·.root.1)).Perm (List.range deps.length) := by
    rw [← map_fst_places, List.map_eq_flatMap]
    refine (List.flatMap_append_perm _ _ _).trans (List.Perm.trans ?_ ((members_mergeForest steps deps).map Prod.fst))
    rw [List.map_flatMap]
    refine List.Perm.flatMap_left _ fun t _ => ?_
    simpa [Function.comp_def] using (t.members_perm.map Prod.fst).symm
  rw [map_place_mergeForest] at hall
  exact (List.perm_append_left_iff _).1 (hall.trans (filter_emptied_perm steps deps).symm)

/-! ## One step more -/

theorem slots_concat (s : MergeStep) : slots (steps ++ [s]) deps = apply (slots steps deps) s := by
  rw [slots, List.foldl_append]
  rfl

/-- A step with one place for both sides, or with an empty place, changes nothing. -/
theorem slots_concat_of_idle {s : MergeStep}
    (h : s.primary = s.secondary ∨ s.primary ∈ emptied steps deps ∨ s.secondary ∈ emptied steps deps) :
    slots (steps ++ [s]) deps = slots steps deps := by
  rw [slots_concat, apply_eq_carry]
  exact carry_of_idle (h.imp_right (.imp (fun h => ((mem_emptied steps deps).1 h).2)
    fun h => ((mem_emptied steps deps).1 h).2))

/-- Any other step on places that exist empties its second place and no other one. -/
theorem emptied_concat {s : MergeStep} (hne : s.primary ≠ s.secondary)
    (hp : s.primary < deps.length ∧ s.primary ∉ emptied steps deps)
    (hs : s.secondary < deps.length ∧ s.secondary ∉ emptied steps deps) :
    (emptied (steps ++ [s]) deps).Perm (s.secondary :: emptied steps deps) := by
  have hidle : ¬ s.Idle (slots steps deps) := by
    rintro (h | h | h)
    · exact hne h
    · exact hp.2 ((mem_emptied steps deps).2 ⟨hp.1, h⟩)
    · exact hs.2 ((mem_emptied steps deps).2 ⟨hs.1, h⟩)
  refine (List.perm_ext_iff_of_nodup (nodup_emptied _ _) (List.nodup_cons.2 ⟨hs.2, nodup_emptied _ _⟩)).2 fun k => ?_
  rw [List.mem_cons, mem_emptied, mem_emptied, slots_concat, apply_eq_carry, join_carry_eq_none_iff]
  constructor
  · rintro ⟨hk, h | ⟨-, rfl⟩⟩
    · exact .inr ⟨hk, h⟩
    · exact .inl rfl
  · rintro (rfl | ⟨hk, h⟩)
    · exact ⟨hs.1, .inr ⟨hidle, rfl⟩⟩
    · exact ⟨hk, .inl h⟩

/-! ## Well-formed steps -/

/-- Steps on `n` places that each fold one place into another, and name none that an earlier one has emptied. -/
structure MergeStep.WellFormed (n : Nat) (steps : List MergeStep) : Prop where
  bounds (s : MergeStep) : s ∈ steps → s.primary < n ∧ s.secondary < n
  distinct (s : MergeStep) : s ∈ steps → s.primary ≠ s.secondary
  fresh : steps.Pairwise fun s t => s.secondary ≠ t.primary ∧ s.secondary ≠ t.secondary

/-- Each of them has an effect. -/
theorem emptied_of_wellFormed (h : WellFormed deps.length steps) :
    (emptied steps deps).Perm (steps.map MergeStep.secondary) := by
  induction steps using List.reverseRecOn with
  | nil =>
    refine List.Perm.of_eq (List.filter_eq_nil_iff.2 fun k hk => ?_)
    have hk : k < deps.length := List.mem_range.1 hk
    simp [slots, List.getElem?_eq_getElem hk]
  | append_singleton steps s ih =>
    obtain ⟨hbefore, -, hlast⟩ := List.pairwise_append.1 h.fresh
    have hearlier := ih ⟨fun t ht => h.bounds t (List.mem_append_left _ ht),
      fun t ht => h.distinct t (List.mem_append_left _ ht), hbefore⟩
    have hs : s ∈ steps ++ [s] := List.mem_append_right _ (List.mem_singleton_self s)
    have hfilled : ∀ k, (∀ t ∈ steps, t.secondary ≠ k) → k ∉ emptied steps deps := fun k hk hm => by
      obtain ⟨t, ht, he⟩ := List.mem_map.1 (hearlier.subset hm)
      exact hk t ht he
    have hstep := emptied_concat steps deps (h.distinct s hs)
      ⟨(h.bounds s hs).1, hfilled _ fun t ht => (hlast t ht s (List.mem_singleton_self s)).1⟩
      ⟨(h.bounds s hs).2, hfilled _ fun t ht => (hlast t ht s (List.mem_singleton_self s)).2⟩
    rw [List.map_append, List.map_singleton]
    exact hstep.trans ((hearlier.cons _).trans (List.perm_append_singleton _ _).symm)

end Runs

end DependencyEvidence
