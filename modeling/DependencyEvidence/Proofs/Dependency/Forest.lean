import DependencyEvidence.Dependency.Basic

/-!
# Dependencies as trees

A dependency is a file record with dependencies below it, and a working set is a forest.

* `Dependency.records` lists the file records of a tree, its own first, and `FileRecord.key` is the part of a record
  that folding dependencies together leaves alone.
* `Dependency.nesting` is the number of levels below the top; `relatedDepth` is the greatest one in a working set.
-/

namespace DependencyEvidence

/-! ## Keys -/

/-- The part of a file record that says which file it is about. -/
structure FileKey where
  filePath : Path
  actualPath : Path
  fileName : String
  sha256 : String
  ecosystem : Ecosystem
  packagePath : Option String
  name : Option String
deriving DecidableEq

/-- The key of a file record. -/
def FileRecord.key (f : FileRecord) : FileKey where
  filePath := f.filePath
  actualPath := f.actualPath
  fileName := f.fileName
  sha256 := f.sha256
  ecosystem := f.ecosystem
  packagePath := f.packagePath
  name := f.name

/-! ## Records of a forest -/

mutual

/-- The file records of a dependency and of all that is below it. -/
def Dependency.records : Dependency → List FileRecord
  | ⟨file, related⟩ => file :: recordsOf related

/-- The file records of a forest. -/
def recordsOf : List Dependency → List FileRecord
  | [] => []
  | d :: rest => d.records ++ recordsOf rest

end

theorem recordsOf_eq_flatMap (ds : List Dependency) : recordsOf ds = ds.flatMap Dependency.records := by
  induction ds with
  | nil => rfl
  | cons d rest ih => rw [recordsOf, ih, List.flatMap_cons]

theorem Dependency.records_eq (d : Dependency) :
    d.records = d.toFileRecord :: d.related.flatMap Dependency.records := by
  obtain ⟨file, related⟩ := d
  rw [Dependency.records, recordsOf_eq_flatMap]

/-- The keys of all records of a dependency. -/
def Dependency.keys (d : Dependency) : List FileKey := d.records.map FileRecord.key

theorem Dependency.keys_eq (d : Dependency) : d.keys = d.key :: d.related.flatMap Dependency.keys := by
  rw [Dependency.keys, Dependency.records_eq, List.map_cons, List.map_flatMap]
  rfl

/-! ## Nesting -/

mutual

/-- How many levels there are below a dependency. -/
def Dependency.nesting : Dependency → Nat
  | ⟨_, related⟩ => levelsOf related

/-- How many levels a forest has. -/
def levelsOf : List Dependency → Nat
  | [] => 0
  | d :: rest => max (d.nesting + 1) (levelsOf rest)

end

theorem levelsOf_le {ds : List Dependency} {n : Nat} : levelsOf ds ≤ n ↔ ∀ d ∈ ds, d.nesting + 1 ≤ n := by
  induction ds with
  | nil => simp [levelsOf]
  | cons d rest ih => rw [levelsOf, Nat.max_le, ih, List.forall_mem_cons]

/-- A dependency has at most `n` levels below it if what is directly below has fewer. -/
theorem Dependency.nesting_le {d : Dependency} {n : Nat} : d.nesting ≤ n ↔ ∀ r ∈ d.related, r.nesting + 1 ≤ n := by
  obtain ⟨file, related⟩ := d
  rw [Dependency.nesting]
  exact levelsOf_le

/-- The greatest number of levels below a dependency of a working set. -/
def relatedDepth (ds : List Dependency) : Nat := (ds.map Dependency.nesting).foldr max 0

theorem relatedDepth_le {ds : List Dependency} {n : Nat} : relatedDepth ds ≤ n ↔ ∀ d ∈ ds, d.nesting ≤ n := by
  induction ds with
  | nil => simp [relatedDepth]
  | cons d rest ih =>
    rw [List.forall_mem_cons, ← ih]
    exact Nat.max_le

end DependencyEvidence
