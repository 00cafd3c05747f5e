import DependencyEvidence.CommandLine.Session

/-!
# Footprints

The places at which a session looks, so that they can be brought into a file system before it starts. What a session
looks at depends on the settings and on the input: a footprint is found with what is known of the file system so far,
and grows with it.
-/

namespace DependencyEvidence.CommandLine

/-- The places on the way that steps lead from a place. -/
def wayFrom (place : Location) : List String → List Location
  | [] => [place]
  | step :: rest =>
    let following := if step = "" ∨ step = "." then place else if step = ".." then place.tail else step :: place
    place :: wayFrom following rest

/-- The places on the way of a path. -/
def way (fs : FileSystem) (p : Path) : List Location :=
  match fs.start p with
  | .ok (place, steps) => wayFrom place steps
  | .error _ => []

/-- The paths at which loading the settings looks. -/
def settingsPaths (fs : FileSystem) (a : Arguments) : List Path :=
  (a.config.map Path.mk).toList ++ [Settings.projectFile (project fs)] ++ (fs.home.map Settings.userFile).toList

/-- The paths at which loading the hint rules looks. -/
def hintPaths (fs : FileSystem) (s : Settings) : List Path :=
  let named := match s.hintFile with
    | none => []
    | some location =>
      match Url.parse? location with
      | some (.file p) => [p, ⟨location⟩]
      | _ => [⟨location⟩]
  named ++ [s.temporaryDirectory.getD fs.temporaryDirectory]

/-- The paths at which analyzing a dependency looks. -/
def dependencyPaths (d : Dependency) : List Path :=
  let gem? := do
    Dependency.gemDirectory? (← d.actualPath.parent?) (← Text.withoutSuffix? gemspecSuffix d.fileName)
  d.actualPath :: gem?.toList

/-- The paths at which a run looks, as far as its settings and its input are known. -/
def runPaths (fs : FileSystem) (stdin : ByteArray) (a : Arguments) : List Path :=
  let hints := match settings fs a with
    | .ok s => hintPaths fs s
    | .error _ => []
  let found := match inputText fs stdin a with
    | .ok text => ((Dependency.parseAll? text).getD []).flatMap dependencyPaths
    | .error _ => []
  settingsPaths fs a ++ (inputPath? a).toList ++ (a.output.map Path.mk).toList ++ hints ++ found

/-- The places at which a session looks, as far as its settings and its input are known. -/
def footprint (fs : FileSystem) (stdin : ByteArray) (arguments : List String) : List Location :=
  match Request.ofArguments arguments with
  | .ok (.run a) => (runPaths fs stdin a).flatMap (way fs)
  | _ => []

/-- Whether a session reads the standard input. -/
def readsStandardInput (arguments : List String) : Bool :=
  match Request.ofArguments arguments with
  | .ok (.run a) => (inputPath? a).isNone
  | _ => false

end DependencyEvidence.CommandLine
