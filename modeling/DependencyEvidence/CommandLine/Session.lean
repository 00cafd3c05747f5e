import DependencyEvidence.Analysis.Engine
import DependencyEvidence.CommandLine.Arguments
import DependencyEvidence.Report

/-!
# Sessions

What the command line does: it reads dependencies, runs the analyzers of every run on them, and writes a report. A
session is a function of the file system, of what stands on the standard input, of the arguments, and of what a network
delivers.
-/

namespace DependencyEvidence.CommandLine

/-- What a session leaves behind. -/
structure Outcome where
  exitCode : Nat
  output : String
  messages : String
  fileSystem : FileSystem

/-- Why a session ends without a report. -/
inductive SessionError where
  | settings (error : SettingsError)
  | unreadableFile (path : Path) (error : FileError)
  /-- The standard input is no text. -/
  | unreadableInput
  /-- The input is no array of dependencies. -/
  | malformedInput
  | unwritable (path : Path) (error : FileError)
  | run (error : RunError)
deriving DecidableEq, Repr

/-- What is said about the error. -/
def SessionError.message : SessionError → String
  | .settings error => error.message
  | .unreadableFile path error => "cannot read " ++ path.text ++ ": " ++ error.message
  | .unreadableInput => "cannot read stdin: " ++ FileError.invalidData.message
  | .malformedInput => "input is not a JSON array of dependencies"
  | .unwritable path error => "cannot write " ++ path.text ++ ": " ++ error.message
  | .run error => error.message

/-! ## Steps of a session -/

/-- The directory in which the session takes place. -/
def project (fs : FileSystem) : Path := ⟨"/" ++ "/".intercalate fs.workingDirectory.reverse⟩

/-- The settings, with what the arguments change in them. -/
def settings (fs : FileSystem) (a : Arguments) : Except SessionError Settings := do
  let s ← (Settings.load fs (project fs) (a.config.map Path.mk)).mapError .settings
  return { s with hintFile := a.hints <|> s.hintFile, parallel := a.parallel || s.parallel }

/-- The path of the input; a hyphen stands for the standard input. -/
def inputPath? (a : Arguments) : Option Path :=
  match a.input with
  | some input => if input = "-" then none else some ⟨input⟩
  | none => none

/-- The text of the input. -/
def inputText (fs : FileSystem) (stdin : ByteArray) (a : Arguments) : Except SessionError String :=
  match inputPath? a with
  | some p => (fs.readText p).mapError (.unreadableFile p)
  | none =>
    match String.fromUTF8? stdin with
    | some text => .ok text
    | none => .error .unreadableInput

/-- The dependency with the digest of its file, if it lacks one and the file can be read. -/
def withMissingDigest (fs : FileSystem) (d : Dependency) : Dependency :=
  if d.sha256 = "" && fs.isFile d.actualPath then (d.withDigest fs).toOption.getD d else d

/-- The dependencies of the input. -/
def dependencies (fs : FileSystem) (text : String) : Except SessionError (List Dependency) :=
  match Dependency.parseAll? text with
  | some l => .ok (l.map (withMissingDigest fs))
  | none => .error .malformedInput

/-- Writes the report into the file that the arguments name, or to the standard output. -/
def writeReport (fs : FileSystem) (a : Arguments) (text : String) : Except SessionError (String × FileSystem) :=
  match a.output with
  | none => .ok (text ++ "\n", fs)
  | some output => ((fs.write ⟨output⟩ text.toUTF8).mapError (.unwritable ⟨output⟩)).map ("", ·)

/-! ## Sessions -/

/-- The lines about failed dependencies. -/
def failureLines (failures : List Failure) : String :=
  String.join (failures.map fun f => "  ✗ " ++ f.message ++ "\n")

/-- The line about what a session has done. -/
def summaryLine (before after : Nat) : String :=
  "  → " ++ toString before ++ " dependencies in, " ++ toString after ++ " out\n"

/-- Carries a run out. A run in which an analyzer failed on some dependency has a report too. -/
def perform (fs : FileSystem) (stdin : ByteArray) (a : Arguments) (net : Network) : Except SessionError Outcome := do
  let s ← settings fs a
  let before ← dependencies fs (← inputText fs stdin a)
  let run := (Engine.standard s before net).run fs
  let failures ← match run.error? with
    | none => .ok []
    | some (.analysis failures) => .ok failures
    | some error => .error (.run error)
  let (output, fs) ← writeReport run.fileSystem a (report run.dependencies)
  let summary := if a.quiet then "" else summaryLine before.length run.dependencies.length
  return ⟨if failures.isEmpty then 0 else 1, output, failureLines failures ++ summary, fs⟩

/-- The name and the version of the program. -/
def versionText : String := "evidence-engine 0.1.0\n"

/-- What the program is for, and how it is called. -/
def helpText : String :=
  "Apply hint rules, merge duplicate packages and normalize search terms for scanned dependencies\n\n" ++
  "Usage: evidence-engine [OPTIONS] [INPUT]\n\n" ++
  "Arguments:\n" ++
  "  [INPUT]  JSON array of dependencies; the standard input if absent or a hyphen\n\n" ++
  "Options:\n" ++
  "      --config <CONFIG>   Settings file\n" ++
  "      --hints <LOCATION>  Further hint rules: a URL, a path or the name of a built-in document\n" ++
  "  -o, --output <FILE>     File for the report\n" ++
  "      --parallel          Analyze dependencies in parallel\n" ++
  "  -v, --verbose           Say more\n" ++
  "  -q, --quiet             Say errors only\n" ++
  "  -h, --help              Print help\n" ++
  "  -V, --version           Print version\n"

/-- A session, without a network unless there is one. -/
def session (fs : FileSystem) (stdin : ByteArray) (arguments : List String) (net : Network := .none) : Outcome :=
  match Request.ofArguments arguments with
  | .error error => ⟨2, "", "error: " ++ error.message ++ "\n", fs⟩
  | .ok (.notice .version) => ⟨0, versionText, "", fs⟩
  | .ok (.notice .help) => ⟨0, helpText, "", fs⟩
  | .ok (.run a) =>
    match perform fs stdin a net with
    | .ok outcome => outcome
    | .error error => ⟨2, "", "error: " ++ error.message ++ "\n", fs⟩

end DependencyEvidence.CommandLine
