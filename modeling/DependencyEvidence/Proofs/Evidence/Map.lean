import DependencyEvidence.Evidence.Collection
import Mathlib.Data.List.Induction
import Mathlib.Data.List.Perm.Basic
import Mathlib.Order.BoundedOrder.Lattice
import Mathlib.Order.WithBot

/-!
# Collections as maps

What a collection says is a map from identities to confidences (`Collection.toMap`); in which order it keeps its entries
and in which case it spells them does not count. On maps

* adding an observation joins its own map to that of the collection (`toMap_add`), and so does extending by the entries
  of another collection (`toMap_extend_entries`);
* removing erases an identity (`toMap_remove`), although the last entry moves into the gap.

Both rest on `toMap_eq_ofItems`: since no identity occurs twice, the map of a collection is the join of the maps of its
entries, and a join does not see their order (`join_perm`).

What a map does not show is the order of the identities. Extending keeps it, and puts what is new behind
(`map_identity_extend`).
-/

namespace DependencyEvidence

/-! ## The order of confidences -/

instance : LinearOrder Confidence where
  le_refl a := Nat.le_refl a.rank
  le_trans _ _ _ h k := Nat.le_trans h k
  le_antisymm a b h k := by
    have hr : a.rank = b.rank := Nat.le_antisymm h k
    cases a <;> cases b <;> first | rfl | exact absurd hr (by decide)
  le_total a b := Nat.le_total a.rank b.rank
  lt_iff_le_not_ge _ _ := Nat.lt_iff_le_and_not_ge
  min a b := if a ≤ b then a else b
  max_def a b := by cases a <;> cases b <;> rfl
  toDecidableLE := inferInstance

/-! ## Maps -/

/-- A confidence for every identity that occurs. -/
abbrev EvidenceMap := Identity → WithBot Confidence

namespace EvidenceMap

/-- The pointwise maximum of maps. -/
def join : List EvidenceMap → EvidenceMap
  | [] => ⊥
  | m :: rest => m ⊔ join rest

/-- The map without the identities of some observations. -/
def without (m : EvidenceMap) (items : List Evidence) : EvidenceMap :=
  fun i => if i ∈ items.map Evidence.identity then ⊥ else m i

@[simp] theorem join_nil : join [] = ⊥ := rfl

@[simp] theorem join_cons (m : EvidenceMap) (l : List EvidenceMap) : join (m :: l) = m ⊔ join l := rfl

theorem join_append (l k : List EvidenceMap) : join (l ++ k) = join l ⊔ join k := by
  induction l with
  | nil => simp
  | cons m l ih => rw [List.cons_append, join_cons, join_cons, ih, sup_assoc]

/-- A join does not depend on the order of the maps. -/
theorem join_perm {l k : List EvidenceMap} (h : l.Perm k) : join l = join k := by
  induction h with
  | nil => rfl
  | cons m _ ih => rw [join_cons, join_cons, ih]
  | swap m n l => exact sup_left_comm n m (join l)
  | trans _ _ ih₁ ih₂ => exact ih₁.trans ih₂

@[simp] theorem without_nil (m : EvidenceMap) : m.without [] = m := by
  funext i
  simp [without]

theorem without_without (m : EvidenceMap) (l k : List Evidence) : (m.without l).without k = m.without (l ++ k) := by
  funext i
  simp only [without, List.map_append, List.mem_append]
  by_cases hl : i ∈ l.map Evidence.identity <;> by_cases hk : i ∈ k.map Evidence.identity <;> simp [hl, hk]

end EvidenceMap

/-! ## Observations and lists of them -/

/-- The map of a single observation. -/
def Evidence.toMap (e : Evidence) : EvidenceMap := fun i =>
  if i = e.identity then (e.confidence : WithBot Confidence) else ⊥

/-- The map of some observations: for each identity the greatest confidence that goes with it. -/
def EvidenceMap.ofItems (items : List Evidence) : EvidenceMap := join (items.map Evidence.toMap)

namespace EvidenceMap

@[simp] theorem ofItems_nil : ofItems [] = ⊥ := rfl

@[simp] theorem ofItems_cons (e : Evidence) (l : List Evidence) : ofItems (e :: l) = e.toMap ⊔ ofItems l := rfl

theorem ofItems_perm {l k : List Evidence} (h : l.Perm k) : ofItems l = ofItems k := join_perm (h.map _)

theorem ofItems_eq_bot_iff {l : List Evidence} {i : Identity} : ofItems l i = ⊥ ↔ i ∉ l.map Evidence.identity := by
  induction l with
  | nil => simp
  | cons e l ih =>
    rw [ofItems_cons, Pi.sup_apply, sup_eq_bot_iff, ih, List.map_cons, List.mem_cons, not_or]
    simp [Evidence.toMap]

/-- Over its equal, an observation leaves the greater of the two confidences. -/
theorem toMap_sup_of_identity_eq {x e : Evidence} (h : x.identity = e.identity) :
    (if x.confidence < e.confidence then e else x).toMap = x.toMap ⊔ e.toMap := by
  funext i
  by_cases hi : i = e.identity
  · rw [Pi.sup_apply]
    split
    · next hlt => simp [Evidence.toMap, h, hi, ← WithBot.coe_sup, max_eq_right_of_lt hlt]
    · next hge => simp [Evidence.toMap, h, hi, ← WithBot.coe_sup, max_eq_left (not_lt.1 hge)]
  · rw [Pi.sup_apply]
    split <;> simp [Evidence.toMap, h, hi]

theorem ofItems_addTo (e : Evidence) (l : List Evidence) : ofItems (addTo e l) = ofItems l ⊔ e.toMap := by
  induction l with
  | nil => simp [addTo]
  | cons x rest ih =>
    rw [addTo]
    split
    · next h =>
      rw [ofItems_cons, ofItems_cons, toMap_sup_of_identity_eq ((Evidence.same_iff x e).1 h), sup_right_comm]
    · rw [ofItems_cons, ofItems_cons, ih, sup_assoc]

end EvidenceMap

theorem swapRemove_perm_eraseIdx {α : Type} {l : List α} {i : Nat} (h : i < l.length) :
    (swapRemove i l).Perm (l.eraseIdx i) := by
  unfold swapRemove
  cases hl : l.getLast? with
  | none => simp_all
  | some z =>
    obtain ⟨init, rfl⟩ := List.getLast?_eq_some_iff.1 hl
    rw [List.dropLast_concat]
    rw [List.length_append, List.length_singleton] at h
    rcases Nat.lt_or_eq_of_le (Nat.le_of_lt_succ h) with hi | rfl
    · rw [List.eraseIdx_append_of_lt_length hi]
      exact (List.set_perm_cons_eraseIdx hi z).trans (List.perm_append_singleton z _).symm
    · rw [List.eraseIdx_append_of_length_le (Nat.le_refl _)]
      simp [List.set_eq_of_length_le]

/-! ## Collections -/

namespace Collection

open EvidenceMap

/-- The collection as a map. -/
def toMap (c : Collection) : EvidenceMap := c.confidence?

theorem toMap_eq_ofItems (c : Collection) : c.toMap = ofItems c.entries := by
  suffices h : ∀ l : List Evidence, (l.map Evidence.identity).Nodup → ∀ i,
      ((l.find? (·.identity = i)).map (·.confidence) : WithBot Confidence) = ofItems l i by
    funext i
    exact h c.entries c.distinct i
  intro l hl i
  induction l with
  | nil => rfl
  | cons e rest ih =>
    rw [List.map_cons, List.nodup_cons] at hl
    by_cases hi : e.identity = i
    · have hrest : ofItems rest i = ⊥ := ofItems_eq_bot_iff.2 (hi ▸ hl.1)
      rw [ofItems_cons, Pi.sup_apply, hrest, sup_bot_eq]
      simp only [hi, List.find?_cons, decide_true, Evidence.toMap, if_true]
      rfl
    · have hmap : e.toMap i = ⊥ := if_neg (Ne.symm hi)
      rw [ofItems_cons, Pi.sup_apply, hmap, bot_sup_eq, ← ih hl.2, List.find?_cons_of_neg (by simpa using hi)]

theorem toMap_eq_bot_iff {c : Collection} {i : Identity} : c.toMap i = ⊥ ↔ i ∉ c.entries.map Evidence.identity := by
  rw [toMap_eq_ofItems, ofItems_eq_bot_iff]

theorem contains_iff {c : Collection} {e : Evidence} : c.contains e = true ↔ c.toMap e.identity ≠ ⊥ := by
  rw [Ne, toMap_eq_bot_iff, not_not, contains, List.any_eq_true, List.mem_map]
  simp only [Evidence.same_iff]

/-- Adding joins. -/
theorem toMap_add (c : Collection) (e : Evidence) : (c.add e).toMap = c.toMap ⊔ e.toMap := by
  rw [toMap_eq_ofItems, toMap_eq_ofItems]
  exact ofItems_addTo e c.entries

theorem toMap_extend (c : Collection) (items : List Evidence) : (c.extend items).toMap = c.toMap ⊔ ofItems items := by
  induction items generalizing c with
  | nil => simp [extend]
  | cons e rest ih =>
    show ((c.add e).extend rest).toMap = _
    rw [ih, toMap_add, ofItems_cons, sup_assoc]

/-- Extending by the entries of a collection joins its map. -/
theorem toMap_extend_entries (c d : Collection) : (c.extend d.entries).toMap = c.toMap ⊔ d.toMap := by
  rw [toMap_extend, toMap_eq_ofItems d]

theorem extend_concat (c : Collection) (items : List Evidence) (x : Evidence) :
    c.extend (items ++ [x]) = (c.extend items).add x := by
  rw [extend, extend, List.foldl_append]
  rfl

/-- An extended collection has its identities where they were, and the new ones behind them in the order in which they
came first. -/
theorem map_identity_extend (c : Collection) (items : List Evidence) :
    (c.extend items).entries.map Evidence.identity = c.entries.map Evidence.identity ++
      ((items.map Evidence.identity).filter (· ∉ c.entries.map Evidence.identity)).eraseDups := by
  induction items using List.reverseRecOn with
  | nil => simp [extend]
  | append_singleton items x ih =>
    have hadd : ((c.extend items).add x).entries = addTo x (c.extend items).entries := rfl
    rw [extend_concat, hadd, map_identity_addTo, ih, List.map_append, List.map_singleton, List.filter_append,
      List.eraseDups_append]
    generalize c.entries.map Evidence.identity = old
    generalize items.map Evidence.identity = new
    by_cases hold : x.identity ∈ old
    · simp [hold]
    · by_cases hnew : x.identity ∈ new <;> simp [hold, hnew, List.removeAll, List.eraseDups_cons]

/-- Removing erases. -/
theorem toMap_remove (c : Collection) (e : Evidence) : (c.remove e).2.toMap = c.toMap.without [e] := by
  unfold remove
  cases hf : c.entries.findIdx? (·.same e) with
  | none =>
    have hnone : ∀ x ∈ c.entries, x.same e = false := by simpa using List.findIdx?_eq_none_iff.1 hf
    have habsent : c.toMap e.identity = ⊥ := by
      refine toMap_eq_bot_iff.2 fun hm => ?_
      obtain ⟨x, hx, hi⟩ := List.mem_map.1 hm
      exact Bool.false_ne_true ((hnone x hx).symm.trans ((Evidence.same_iff x e).2 hi))
    funext i
    by_cases hi : i = e.identity <;> simp [without, hi, habsent]
  | some k =>
    obtain ⟨hk, hsame, -⟩ := List.findIdx?_eq_some_iff_getElem.1 hf
    have hid : c.entries[k].identity = e.identity := (Evidence.same_iff _ e).1 hsame
    have hsplit : (c.entries[k] :: c.entries.eraseIdx k).Perm c.entries := List.getElem_cons_eraseIdx_perm hk
    have hkept : (c.removeAt k).toMap = ofItems (c.entries.eraseIdx k) := by
      rw [toMap_eq_ofItems]
      exact ofItems_perm (swapRemove_perm_eraseIdx hk)
    have hgone : ofItems (c.entries.eraseIdx k) e.identity = ⊥ := by
      have hnodup := ((hsplit.map Evidence.identity).nodup_iff).2 c.distinct
      rw [List.map_cons, List.nodup_cons, hid] at hnodup
      exact ofItems_eq_bot_iff.2 hnodup.1
    funext i
    show (c.removeAt k).toMap i = _
    rw [hkept, toMap_eq_ofItems, ← ofItems_perm hsplit, without]
    by_cases hi : i = e.identity
    · simp [hi, hgone]
    · simp [hi, Evidence.toMap, hid]

theorem toMap_foldl_remove (c : Collection) (items : List Evidence) :
    (items.foldl (fun c e => (c.remove e).2) c).toMap = c.toMap.without items := by
  induction items generalizing c with
  | nil => simp
  | cons e rest ih => rw [List.foldl_cons, ih, toMap_remove, without_without, List.singleton_append]

end Collection

end DependencyEvidence
