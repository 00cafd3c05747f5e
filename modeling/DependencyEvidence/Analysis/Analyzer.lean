import DependencyEvidence.Hints.Load

/-!
# Analyzers

An analyzer is one step of a run. It belongs to a phase, may be switched off by the settings, and is prepared once
before anything is analyzed. What it then does (`Work`) is a change to each dependency by itself, or to all of them
together.
-/

namespace DependencyEvidence

/-! ## Phases -/

/-- The phases of a run, in order. -/
inductive Phase where
  | initial
  | preInformationCollection
  | informationCollection
  | postInformationCollection
  | preIdentifierAnalysis
  | identifierAnalysis
  | postIdentifierAnalysis
  | final
deriving DecidableEq, Repr, Inhabited

namespace Phase

/-- All phases, in order. -/
def all : List Phase :=
  [initial, preInformationCollection, informationCollection, postInformationCollection, preIdentifierAnalysis,
   identifierAnalysis, postIdentifierAnalysis, final]

/-- The place of a phase in their order. -/
def rank : Phase → Nat
  | initial => 0
  | preInformationCollection => 1
  | informationCollection => 2
  | postInformationCollection => 3
  | preIdentifierAnalysis => 4
  | identifierAnalysis => 5
  | postIdentifierAnalysis => 6
  | final => 7

/-- The name of a phase. -/
def name : Phase → String
  | initial => "initial"
  | preInformationCollection => "pre-information-collection"
  | informationCollection => "information-collection"
  | postInformationCollection => "post-information-collection"
  | preIdentifierAnalysis => "pre-identifier-analysis"
  | identifierAnalysis => "identifier-analysis"
  | postIdentifierAnalysis => "post-identifier-analysis"
  | final => "final"

/-- Whether a phase is not after another one. -/
def notAfter (p q : Phase) : Bool := p.rank ≤ q.rank

/-- What has phases, sorted by them. What has the same phase stays in order. -/
def sort {α : Type} (phase : α → Phase) (l : List α) : List α := l.mergeSort fun a b => (phase a).notAfter (phase b)

end Phase

/-! ## Failures -/

/-- Why an analyzer cannot be prepared. -/
inductive PreparationError where
  | hints (error : LoadError)
  | other (message : String)
deriving DecidableEq, Repr

/-- What is said about the error. -/
def PreparationError.message : PreparationError → String
  | .hints error => "unable to parse the hint file: " ++ error.message
  | .other message => message

/-- An analyzer's failure on one dependency. -/
structure Failure where
  analyzer : String
  path : Path
  reason : String
deriving DecidableEq, Repr

/-- What is said about the failure. -/
def Failure.message (f : Failure) : String := f.analyzer ++ " failed on " ++ f.path.text ++ ": " ++ f.reason

/-! ## Analyzers -/

/-- What happens to one dependency: it changes, and the analyzer may say why it failed on it. -/
abbrev Step := Dependency → Dependency × Option String

/-- What a prepared analyzer does. -/
inductive Work where
  /-- It takes every dependency by itself, in order. -/
  | each (step : FileSystem → Step)
  /-- It takes all dependencies together. -/
  | together (change : List Dependency → List Dependency)

/-- One step of a run. -/
structure Analyzer where
  name : String
  phase : Phase
  isEnabled : Settings → Bool
  /-- Gets ready for a run; nothing is analyzed unless every analyzer has done so. -/
  prepare : Settings → FileSystem → Except PreparationError Work × FileSystem

namespace Work

/-- The dependencies after the work, and the failures in the order of the dependencies. -/
def perform (w : Work) (analyzer : String) (fs : FileSystem) (dependencies : List Dependency) :
    List Dependency × List Failure :=
  match w with
  | .each step =>
    let results := dependencies.map (step fs)
    (results.map (·.1), results.filterMap fun (d, reason?) => reason?.map (⟨analyzer, d.filePath, ·⟩))
  | .together change => (change dependencies, [])

end Work

namespace Analyzer

/-- An analyzer that needs no preparation. -/
def simple (name : String) (phase : Phase) (isEnabled : Settings → Bool) (work : Work) : Analyzer :=
  ⟨name, phase, isEnabled, fun _ fs => (.ok work, fs)⟩

/-- Corrects the evidence of every dependency by hint rules: those of a base document, and those that the settings
name, which a network may have to deliver. -/
def hints (base : String := builtinRules) (net : Network := .none) : Analyzer where
  name := "Hint Analyzer"
  phase := .preInformationCollection
  isEnabled s := s.analyzers.hint
  prepare s fs :=
    let (loaded, fs) := RuleSet.load fs s base net
    ((loaded.mapError .hints).map fun rules => .each fun _ d => (rules.apply d, none), fs)

end Analyzer

end DependencyEvidence
