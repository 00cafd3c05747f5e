/-!
# References

The projects that refer to a dependency: a set of names, kept in ascending order of their characters.

* `References.insert` adds a name; `mem_insertName` says what is in the set afterwards.
* `References.union` adds all names of another set.
-/

namespace DependencyEvidence

/-! ## Ascending lists of names -/

/-- Puts a name in its place in an ascending list, unless it is there. -/
def insertName (name : String) : List String → List String
  | [] => [name]
  | x :: rest =>
    if name < x then name :: x :: rest else if name = x then x :: rest else x :: insertName name rest

theorem mem_insertName {name x : String} {l : List String} : x ∈ insertName name l ↔ x = name ∨ x ∈ l := by
  induction l with
  | nil => simp [insertName]
  | cons y rest ih =>
    rw [insertName]
    split
    · simp
    · split
      · next h => subst h; simp
      · simp only [List.mem_cons, ih]; grind

theorem pairwise_insertName (name : String) {l : List String} (h : l.Pairwise (· < ·)) :
    (insertName name l).Pairwise (· < ·) := by
  induction l with
  | nil => simp [insertName]
  | cons y rest ih =>
    obtain ⟨h1, h2⟩ := List.pairwise_cons.1 h
    rw [insertName]
    split
    · next k =>
      exact List.pairwise_cons.2 ⟨fun x hx => (List.mem_cons.1 hx).elim (fun e => e ▸ k)
        fun hx => String.lt_trans k (h1 x hx), h⟩
    · next k =>
      split
      · exact h
      · next ne =>
        refine List.pairwise_cons.2 ⟨fun x hx => ?_, ih h2⟩
        rcases mem_insertName.1 hx with rfl | hx
        · exact String.not_le.1 fun le => ne (String.le_antisymm le (String.not_lt.1 k))
        · exact h1 x hx

/-! ## Sets of names -/

/-- A set of names. -/
structure References where
  names : List String
  /-- The names ascend. -/
  ascending : names.Pairwise (· < ·)
deriving DecidableEq

namespace References

/-- The set without names. -/
def empty : References := ⟨[], .nil⟩

instance : Inhabited References := ⟨empty⟩

/-- Adds a name. -/
def insert (r : References) (name : String) : References :=
  ⟨insertName name r.names, pairwise_insertName name r.ascending⟩

/-- Adds names. -/
def extend (r : References) (names : List String) : References := names.foldl insert r

/-- The set of the names of a list. -/
def ofList (names : List String) : References := empty.extend names

/-- The names of both sets. -/
def union (r s : References) : References := r.extend s.names

end References

end DependencyEvidence
