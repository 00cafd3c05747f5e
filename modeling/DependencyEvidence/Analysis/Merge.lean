import DependencyEvidence.Analysis.PackagePath

/-!
# Merging dependencies

Several files of one package are several dependencies. A merge rule recognises a pair of them and says which one is
kept; the other one is folded into it.

* `Dependency.absorb` folds one dependency into another.
* `plan` finds the steps, without changing anything, and `MergeStep.applyAll` carries steps out.

A plan goes through the dependencies in order. `planRow` compares one with those behind it, and stops when it loses.
-/

namespace DependencyEvidence

/-! ## One pair -/

/-- Recognises pairs of dependencies of one package. -/
inductive MergeRule where
  /-- The specifications of a gem: among its files, and in a bundler's directory of specifications. -/
  | rubyGemspec
  /-- The manifest of a Swift package, and the specification of the pod that it is as well. -/
  | swiftPackage
deriving DecidableEq, Repr

/-- Whether two dependencies have package paths, and the same one up to case. -/
def samePackage (a b : Dependency) : Bool :=
  match a.packagePath, b.packagePath with
  | some p, some q => equalIgnoringCase p q
  | _, _ => false

namespace MergeRule

/-- All rules, in the order in which they are tried. -/
def all : List MergeRule := [rubyGemspec, swiftPackage]

/-- Whether the rule is about such a file. -/
def accepts (r : MergeRule) (d : Dependency) : Bool :=
  match r with
  | rubyGemspec => Text.hasSuffix gemspecSuffix d.fileName
  | swiftPackage => Text.hasSuffix podspecSuffix d.fileName || d.fileName = manifestName

/-- Whether the rule recognises a pair. -/
def joins (r : MergeRule) (a b : Dependency) : Bool := r.accepts a && r.accepts b && samePackage a b

/-- Whether the first one of a pair is kept: the bundler's specification, which is complete, and the pod's. -/
def prefersFirst (r : MergeRule) (a : Dependency) : Bool :=
  match r with
  | rubyGemspec => a.parentName?.any fun name => name.map Char.toLower = specificationsName
  | swiftPackage => Text.hasSuffix podspecSuffix a.fileName

end MergeRule

/-- Folds a dependency into another one, which gets its evidence, what was folded into it, and itself. References are
shared by files of the same content only. -/
def Dependency.absorb (primary secondary : Dependency) : Dependency :=
  { primary with
    vendor := primary.vendor.extend secondary.vendor.entries
    product := primary.product.extend secondary.product.entries
    version := primary.version.extend secondary.version.entries
    references :=
      if primary.sha256 ≠ "" ∧ primary.sha256 = secondary.sha256 then primary.references.union secondary.references
      else primary.references
    related := primary.related ++ secondary.related ++ [{ secondary with related := [] }] }

/-! ## Plans -/

/-- Folds the dependency at one place of a list into the one at another. -/
structure MergeStep where
  primary : Nat
  secondary : Nat
deriving DecidableEq, Repr

/-- A dependency and its place. -/
abbrev Placed := Nat × Dependency

/-- Compares a dependency with those behind it. Gives the steps, and those that are left behind it. -/
def planRow (rules : List MergeRule) (a : Placed) : List Placed → List MergeStep × List Placed
  | [] => ([], [])
  | b :: rest =>
    match rules.find? (·.joins a.2 b.2) with
    | none =>
      let (steps, left) := planRow rules a rest
      (steps, b :: left)
    | some rule =>
      if rule.prefersFirst a.2 then
        let (steps, left) := planRow rules a rest
        (⟨a.1, b.1⟩ :: steps, left)
      else ([⟨b.1, a.1⟩], b :: rest)

theorem length_planRow_le (rules : List MergeRule) (a : Placed) (l : List Placed) :
    (planRow rules a l).2.length ≤ l.length := by
  induction l with
  | nil => simp [planRow]
  | cons b rest ih =>
    rw [planRow]
    split
    · simpa using ih
    · split
      · simp only [List.length_cons]; omega
      · simp

/-- The steps for dependencies at their places. -/
def planFrom (rules : List MergeRule) : List Placed → List MergeStep
  | [] => []
  | a :: rest => (planRow rules a rest).1 ++ planFrom rules (planRow rules a rest).2
termination_by l => l.length
decreasing_by
  have := length_planRow_le rules a rest
  simp only [List.length_cons]; omega

/-- The steps that merge what belongs together. -/
def plan (rules : List MergeRule) (dependencies : List Dependency) : List MergeStep :=
  planFrom rules ((List.range dependencies.length).zip dependencies)

namespace MergeStep

/-- Carries a step out, where every place holds a dependency until it is folded into another. A step without a secondary
or a primary does nothing. -/
def apply (slots : List (Option Dependency)) (s : MergeStep) : List (Option Dependency) :=
  if s.primary = s.secondary then slots
  else match slots[s.primary]?.join, slots[s.secondary]?.join with
    | some primary, some secondary => (slots.set s.secondary none).set s.primary (some (primary.absorb secondary))
    | _, _ => slots

/-- Carries steps out, and gives what is left in order. -/
def applyAll (steps : List MergeStep) (dependencies : List Dependency) : List Dependency :=
  (steps.foldl apply (dependencies.map some)).reduceOption

end MergeStep

/-- Merges what belongs together. -/
def mergeAll (rules : List MergeRule) (dependencies : List Dependency) : List Dependency :=
  MergeStep.applyAll (plan rules dependencies) dependencies

/-- Merges the dependencies that belong together. -/
def Analyzer.merging (rules : List MergeRule := MergeRule.all) : Analyzer :=
  .simple "Dependency Merging Analyzer" .postInformationCollection (·.analyzers.dependencyMerging)
    (.together (mergeAll rules))

end DependencyEvidence
