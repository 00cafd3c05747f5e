import DependencyEvidence.Evidence.Basic

/-!
# Collections of evidence

The evidence of one axis: observations of different identity, in the order in which they came until one is removed.

* `Collection.add` keeps the place of an observation that is there already, and the higher of the two confidences.
* `Collection.remove` puts the last observation into the gap.
* `Collection.confidence?` reads a collection as a map from identity to confidence.

The identities of a collection differ by the type's own invariant. `map_identity_addTo` says what adding does to the
list of identities, and `nodup_swapRemove` that removing keeps its entries apart.
-/

namespace DependencyEvidence

/-! ## Lists of observations -/

/-- Puts an observation into a list: over its equal if it is surer than that, at the end if it has no equal. -/
def addTo (e : Evidence) : List Evidence → List Evidence
  | [] => [e]
  | x :: rest => if x.same e then (if x.confidence < e.confidence then e else x) :: rest else x :: addTo e rest

/-- Takes the element at a place out of a list and puts the last one there. -/
def swapRemove {α : Type} (i : Nat) (l : List α) : List α :=
  match l.getLast? with
  | some z => l.dropLast.set i z
  | none => []

/-- Adding an observation changes no identity, and brings one in if it is new. -/
theorem map_identity_addTo (e : Evidence) (l : List Evidence) :
    (addTo e l).map Evidence.identity =
      if e.identity ∈ l.map Evidence.identity then l.map Evidence.identity
      else l.map Evidence.identity ++ [e.identity] := by
  induction l with
  | nil => simp [addTo]
  | cons x rest ih =>
    rw [addTo]
    by_cases h : x.same e
    · have hi : x.identity = e.identity := (Evidence.same_iff x e).1 h
      split <;> split <;> simp_all
    · have hi : e.identity ≠ x.identity := fun k => h ((Evidence.same_iff x e).2 k.symm)
      simp only [h, Bool.false_eq_true, if_false, List.map_cons, ih, List.mem_cons, hi, false_or]
      split <;> simp

theorem map_swapRemove {α β : Type} (f : α → β) (i : Nat) (l : List α) :
    (swapRemove i l).map f = swapRemove i (l.map f) := by
  unfold swapRemove
  cases h : l.getLast? with
  | none => simp_all
  | some z => simp [List.getLast?_map, h]

theorem nodup_set {α : Type} {l : List α} {z : α} (h : (z :: l).Nodup) (i : Nat) : (l.set i z).Nodup := by
  induction l generalizing i with
  | nil => simp
  | cons x rest ih =>
    simp only [List.nodup_cons, List.mem_cons, not_or] at h
    cases i with
    | zero => simp [h.1.2, h.2.2]
    | succ i =>
      simp only [List.set_cons_succ, List.nodup_cons]
      refine ⟨fun k => ?_, ih (by simp [h.1.2, h.2.2]) i⟩
      rcases List.mem_or_eq_of_mem_set k with k | k
      · exact h.2.1 k
      · exact h.1.1 k.symm

theorem nodup_swapRemove {α : Type} {l : List α} (h : l.Nodup) (i : Nat) : (swapRemove i l).Nodup := by
  unfold swapRemove
  cases hl : l.getLast? with
  | none => simp
  | some z =>
    obtain ⟨init, rfl⟩ := List.getLast?_eq_some_iff.1 hl
    simp only [List.dropLast_concat]
    exact nodup_set (List.perm_append_comm.nodup_iff.1 h) i

/-! ## Collections -/

/-- The evidence of one axis. -/
structure Collection where
  entries : List Evidence
  /-- No identity occurs twice. -/
  distinct : (entries.map Evidence.identity).Nodup
deriving DecidableEq

namespace Collection

/-- A collection without evidence. -/
def empty : Collection := ⟨[], by simp⟩

instance : Inhabited Collection := ⟨empty⟩

/-- Adds an observation. -/
def add (c : Collection) (e : Evidence) : Collection where
  entries := addTo e c.entries
  distinct := by
    rw [map_identity_addTo]
    split
    · exact c.distinct
    · next h => exact List.nodup_append.2 ⟨c.distinct, by simp, fun a ha b hb => by
        rw [List.mem_singleton.1 hb]; exact fun k => h (k ▸ ha)⟩

/-- Adds observations one after another. -/
def extend (c : Collection) (items : List Evidence) : Collection := items.foldl add c

/-- The collection of the observations of a list. -/
def ofList (items : List Evidence) : Collection := empty.extend items

/-- Whether the collection holds an observation with this identity. -/
def contains (c : Collection) (e : Evidence) : Bool := c.entries.any (·.same e)

/-- The collection after the removal of the entry at a place. -/
def removeAt (c : Collection) (i : Nat) : Collection where
  entries := swapRemove i c.entries
  distinct := by rw [map_swapRemove]; exact nodup_swapRemove c.distinct i

/-- Removes the observation with this identity, and tells whether there was one. -/
def remove (c : Collection) (e : Evidence) : Bool × Collection :=
  match c.entries.findIdx? (·.same e) with
  | some i => (true, c.removeAt i)
  | none => (false, c)

/-- Whether some observation has this value, up to case. -/
def containsValue (c : Collection) (value : String) : Bool := c.entries.any fun e => equalIgnoringCase e.value value

/-- How many observations there are. -/
def size (c : Collection) : Nat := c.entries.length

/-- Whether there are none. -/
def isEmpty (c : Collection) : Bool := c.entries.isEmpty

/-- The observations that are at least this sure. -/
def atLeast (c : Collection) (least : Confidence) : List Evidence := c.entries.filter fun e => least ≤ e.confidence

/-- The values of the observations that are at least this sure, with spaces between them. -/
def text (c : Collection) (least : Confidence) : String := " ".intercalate ((c.atLeast least).map (·.value))

/-- The collection as a map from identity to confidence. -/
def confidence? (c : Collection) (i : Identity) : Option Confidence :=
  (c.entries.find? (·.identity = i)).map (·.confidence)

end Collection

end DependencyEvidence
