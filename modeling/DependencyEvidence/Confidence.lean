import DependencyEvidence.Unicode.Blank

/-!
# Confidence and axes

The weight of an observation (`Confidence`) and the side of a dependency's identity that it describes (`Axis`), with the
words in which people write them (`ofText`).
-/

namespace DependencyEvidence

/-- A word that names no confidence or no axis, in the case in which it was compared. -/
inductive WordError where
  | confidence (word : String)
  | axis (word : String)
deriving DecidableEq, Repr

/-- What is said about the word. -/
def WordError.message : WordError → String
  | .confidence word => "unknown confidence '" ++ word ++ "'"
  | .axis word => "unknown evidence type '" ++ word ++ "'"

/-! ## Confidence -/

/-- The weight of an observation. It ranks matches and never decides whether an observation is kept. -/
inductive Confidence where
  | low
  | medium
  | high
  | highest
deriving DecidableEq, Repr, Inhabited

namespace Confidence

/-- The place of a confidence in their order. -/
def rank : Confidence → Nat
  | low => 0
  | medium => 1
  | high => 2
  | highest => 3

instance : LE Confidence := ⟨fun a b => a.rank ≤ b.rank⟩
instance : LT Confidence := ⟨fun a b => a.rank < b.rank⟩
instance (a b : Confidence) : Decidable (a ≤ b) := inferInstanceAs (Decidable (a.rank ≤ b.rank))
instance (a b : Confidence) : Decidable (a < b) := inferInstanceAs (Decidable (a.rank < b.rank))
instance : Max Confidence := ⟨fun a b => if a < b then b else a⟩

/-- The name of a confidence. -/
def name : Confidence → String
  | low => "LOW"
  | medium => "MEDIUM"
  | high => "HIGH"
  | highest => "HIGHEST"

/-- All confidences, in order. -/
def all : List Confidence := [low, medium, high, highest]

/-- The confidence with exactly this name. -/
def named? (word : String) : Option Confidence := all.find? (·.name = word)

/-- Reads a confidence in any ASCII case, with blanks around it. -/
def ofText (text : String) : Except WordError Confidence :=
  let word := String.ofList ((Unicode.trim text.toList).map Char.toUpper)
  match named? word with
  | some c => .ok c
  | none => .error (.confidence word)

end Confidence

/-! ## Axes -/

/-- The side of an identity that an observation describes. -/
inductive Axis where
  | vendor
  | product
  | version
deriving DecidableEq, Repr, Inhabited

namespace Axis

/-- The name of an axis. -/
def name : Axis → String
  | vendor => "vendor"
  | product => "product"
  | version => "version"

/-- All axes, in the order in which they are visited. -/
def all : List Axis := [vendor, product, version]

/-- Reads an axis in any ASCII case, with blanks around it. -/
def ofText (text : String) : Except WordError Axis :=
  let word := String.ofList ((Unicode.trim text.toList).map Char.toLower)
  match all.find? (·.name = word) with
  | some a => .ok a
  | none => .error (.axis word)

end Axis

end DependencyEvidence
