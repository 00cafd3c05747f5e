import DependencyEvidence.Dependency.Basic
import DependencyEvidence.Hints.Pattern

/-!
# Hint rules

A hint rule adds and removes evidence of a dependency that has some given evidence or a file name of some form. A
duplication adds a second vendor wherever a vendor has a certain value.

* `HintRule.fires` decides once, before the rule changes anything, and `HintRule.applyTo` carries the rule out.
* `RuleSet.apply` applies all rules in order and then all duplications, which see only the vendors that the rules left.
-/

namespace DependencyEvidence

/-! ## Rules -/

/-- Evidence for each axis. -/
structure EvidenceSets where
  vendor : List Evidence
  product : List Evidence
  version : List Evidence
deriving DecidableEq, Repr, Inhabited

namespace EvidenceSets

/-- No evidence. -/
def empty : EvidenceSets := ⟨[], [], []⟩

/-- The evidence for an axis. -/
def get (s : EvidenceSets) : Axis → List Evidence
  | .vendor => s.vendor
  | .product => s.product
  | .version => s.version

/-- Adds evidence for an axis at the end. -/
def push (s : EvidenceSets) (a : Axis) (e : Evidence) : EvidenceSets :=
  match a with
  | .vendor => { s with vendor := s.vendor ++ [e] }
  | .product => { s with product := s.product ++ [e] }
  | .version => { s with version := s.version ++ [e] }

/-- Whether there is no evidence. -/
def isEmpty (s : EvidenceSets) : Bool := s.vendor.isEmpty && s.product.isEmpty && s.version.isEmpty

end EvidenceSets

/-- Changes evidence where one of its conditions holds. -/
structure HintRule where
  given : EvidenceSets
  patterns : List FilenamePattern
  add : EvidenceSets
  remove : EvidenceSets

/-- Adds `duplicate` as a vendor wherever a vendor has `value`. -/
structure Duplication where
  value : String
  duplicate : String
deriving DecidableEq, Repr

/-- All rules of a run. -/
structure RuleSet where
  rules : List HintRule
  duplications : List Duplication

namespace HintRule

/-- A rule without conditions and effects. -/
def empty : HintRule := ⟨.empty, [], .empty, .empty⟩

/-- Whether the rule applies: some given evidence is there, or some pattern accepts the file name. -/
def fires (r : HintRule) (d : Dependency) : Bool :=
  Axis.all.any (fun a => (r.given.get a).any (d.evidence a).contains) || r.patterns.any (·.accepts d.fileName)

/-- Adds and then removes the rule's evidence of one axis. -/
def change (r : HintRule) (a : Axis) (c : Collection) : Collection :=
  (r.remove.get a).foldl (fun c e => (c.remove e).2) (c.extend (r.add.get a))

/-- Adds and removes the rule's evidence. -/
def applyTo (r : HintRule) (d : Dependency) : Dependency :=
  Axis.all.foldl (fun d a => d.withEvidence a (r.change a (d.evidence a))) d

/-- The dependency after the rule. -/
def step (d : Dependency) (r : HintRule) : Dependency := if r.fires d then r.applyTo d else d

end HintRule

/-! ## Duplications -/

/-- The evidence that duplications make of one vendor. -/
def Duplication.copies (rules : List Duplication) (e : Evidence) : List Evidence :=
  (rules.filter fun r => equalIgnoringCase r.value e.value).map fun r =>
    ⟨e.source ++ " (hint)", e.name, r.duplicate, e.confidence⟩

/-- The vendors with the copies of all of them behind. -/
def Duplication.applyTo (rules : List Duplication) (vendors : Collection) : Collection :=
  vendors.extend (vendors.entries.flatMap (copies rules))

/-! ## Rule sets -/

namespace RuleSet

/-- No rules. -/
def empty : RuleSet := ⟨[], []⟩

/-- The rules of two sets, one after the other. -/
def append (s t : RuleSet) : RuleSet := ⟨s.rules ++ t.rules, s.duplications ++ t.duplications⟩

/-- Applies the rules and then the duplications. -/
def apply (s : RuleSet) (d : Dependency) : Dependency :=
  let d := s.rules.foldl HintRule.step d
  { d with vendor := Duplication.applyTo s.duplications d.vendor }

end RuleSet

end DependencyEvidence
