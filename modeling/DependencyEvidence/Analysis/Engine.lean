import DependencyEvidence.Analysis.Merge

/-!
# Runs

An engine holds settings, analyzers in the order of their registration, and dependencies. A run prepares every analyzer
that is enabled, in this order, and then lets them work, sorted by phase.

* `Engine.prepare` stops at the first analyzer that cannot be prepared; nothing is analyzed then.
* `Engine.run` gives the dependencies after the run, how it ended, and a journal of what the analyzers were given.
-/

namespace DependencyEvidence

/-- How a run can fail. -/
inductive RunError where
  /-- An analyzer could not be prepared, and nothing was analyzed. -/
  | preparation (analyzer : String) (error : PreparationError)
  /-- Analyzers failed on some dependencies. -/
  | analysis (failures : List Failure)
deriving DecidableEq, Repr

/-- What is said about the failed run. -/
def RunError.message : RunError → String
  | .preparation analyzer error => "failed to initialize " ++ analyzer ++ ": " ++ error.message
  | .analysis failures => toString failures.length ++ " dependency analysis failure(s)"

/-- An event of a run. Analyzers are told by their places among all that are registered. -/
inductive Visit where
  | preparation (analyzer : Nat)
  /-- The analyzer was given a dependency, whose file had this name. -/
  | dependency (analyzer : Nat) (fileName : String)
deriving DecidableEq, Repr

/-- An analyzer that is prepared. -/
structure Ready where
  place : Nat
  name : String
  phase : Phase
  work : Work

/-- The dependencies during a run, with what has happened so far. -/
structure Progress where
  dependencies : List Dependency
  failures : List Failure
  journal : List Visit

/-- Lets an analyzer work. -/
def Ready.perform (fs : FileSystem) (p : Progress) (r : Ready) : Progress :=
  let (dependencies, failures) := r.work.perform r.name fs p.dependencies
  let visits := match r.work with
    | .each _ => p.dependencies.map fun d => Visit.dependency r.place d.fileName
    | .together _ => []
  { dependencies, failures := p.failures ++ failures, journal := p.journal ++ visits }

/-- Prepares analyzers one after another, up to the first that fails. Gives those that are ready, the places of those
that were tried, and the file system behind them. -/
def prepareAll (s : Settings) :
    List (Nat × Analyzer) → FileSystem → Except RunError (List Ready) × List Nat × FileSystem
  | [], fs => (.ok [], [], fs)
  | (place, a) :: rest, fs =>
    match a.prepare s fs with
    | (.error error, fs) => (.error (.preparation a.name error), [place], fs)
    | (.ok work, fs) =>
      let (ready, tried, fs) := prepareAll s rest fs
      (ready.map (⟨place, a.name, a.phase, work⟩ :: ·), place :: tried, fs)

/-- Settings, analyzers in the order of their registration, and dependencies. -/
structure Engine where
  settings : Settings
  analyzers : List Analyzer
  dependencies : List Dependency

/-- What a run leaves behind. -/
structure Run where
  dependencies : List Dependency
  error? : Option RunError
  journal : List Visit
  fileSystem : FileSystem

namespace Engine

/-- The analyzers of every run, in the order of their registration. -/
def defaultAnalyzers (net : Network := .none) : List Analyzer :=
  [.hints builtinRules net, .packagePaths .rubyBundler, .packagePaths .rubyGemspec, .packagePaths .swiftManifest,
   .packagePaths .podspec, .merging]

/-- An engine with the analyzers of every run. -/
def standard (settings : Settings) (dependencies : List Dependency) (net : Network := .none) : Engine :=
  ⟨settings, defaultAnalyzers net, dependencies⟩

/-- The analyzers that take part, with their places. -/
def enabled (e : Engine) : List (Nat × Analyzer) :=
  ((List.range e.analyzers.length).zip e.analyzers).filter (·.2.isEnabled e.settings)

/-- Prepares the analyzers that take part. -/
def prepare (e : Engine) (fs : FileSystem) : Except RunError (List Ready) × List Nat × FileSystem :=
  prepareAll e.settings e.enabled fs

/-- Lets analyzers work, phase by phase. -/
def perform (fs : FileSystem) (ready : List Ready) (p : Progress) : Progress :=
  (Phase.sort Ready.phase ready).foldl (Ready.perform fs) p

/-- Prepares the analyzers and lets them work. -/
def run (e : Engine) (fs : FileSystem) : Run :=
  let (ready?, tried, fs) := e.prepare fs
  let journal := tried.map Visit.preparation
  match ready? with
  | .error error => ⟨e.dependencies, some error, journal, fs⟩
  | .ok ready =>
    let p := perform fs ready ⟨e.dependencies, [], journal⟩
    ⟨p.dependencies, if p.failures.isEmpty then none else some (.analysis p.failures), p.journal, fs⟩

end Engine

end DependencyEvidence
