import DependencyEvidence.Fetch
import DependencyEvidence.Hints.Builtin
import DependencyEvidence.Settings
import DependencyEvidence.Unicode.CaseOrbit

/-!
# Loading hint rules

The rules of a run: those of a base document, and behind them those of the document that the settings name. The name is
a URL, the path of a file, or the name of a built-in document, in this order.

What is fetched or built in goes through a temporary file. `RuleSet.throughTemporary` makes it, and removes it however
the reading ends, if it can be removed.
-/

namespace DependencyEvidence

/-! ## Failures -/

/-- What is said about a document that cannot be read. -/
def DocumentError.message : DocumentError → String
  | .malformed => "malformed hint XML: the document is not well-formed"
  | .invalid fault => "invalid hint rule: " ++ fault.message
  | .unsupportedVersion version => "unsupported hint schema version '" ++ version ++ "'"
  | .pattern value => "invalid filename pattern '" ++ value ++ "': not a regular expression"

/-- Why rules cannot be loaded. -/
inductive LoadError where
  | document (error : DocumentError)
  | unreadable (path : Path) (error : FileError)
  /-- There is no temporary file. -/
  | temporary (error : FileError)
  | fetch (error : FetchError)
deriving DecidableEq, Repr

/-- What is said about the error. -/
def LoadError.message : LoadError → String
  | .document error => error.message
  | .unreadable path error => "unable to read hint file " ++ path.text ++ ": " ++ error.message
  | .temporary error => "unable to create temp file for hints: " ++ error.message
  | .fetch error => "unable to fetch the configured hint file: " ++ error.message

/-! ## Locations -/

/-- Whether a text starts with a word in lower case, up to the case of its characters. -/
def startsWithWord (word text : List Char) : Bool :=
  word.length ≤ text.length && (word.zip text).all fun (w, c) => (Unicode.caseOrbit c).contains w

/-- Whether a location is meant as a URL. -/
def isUrlLocation (location : String) : Bool :=
  ["http:", "https:", "file:"].any fun word => startsWithWord word.toList location.toList

namespace RuleSet

/-! ## Single documents -/

/-- Reads the document in a file. -/
def ofFile (fs : FileSystem) (p : Path) : Except LoadError RuleSet :=
  match fs.readText p with
  | .ok text => (ofText text).mapError .document
  | .error error => .error (.unreadable p error)

/-- Reads the document that is put into a temporary file, and removes the file. That it cannot be removed is no reason
to fail. -/
def throughTemporary (fs : FileSystem) (s : Settings) (fill : FileSystem → Path → Except LoadError Unit × FileSystem) :
    Except LoadError RuleSet × FileSystem :=
  match fs.createTemporary (s.temporaryDirectory.getD fs.temporaryDirectory) "hint" ".xml" with
  | .error error => (.error (.temporary error), fs)
  | .ok (p, fs) =>
    match fill fs p with
    | (.ok (), fs) => (ofFile fs p, fs.discard p)
    | (.error error, fs) => (.error error, fs.discard p)

/-- Fetches a URL into a file: past all proxies, and if that fails once more through the proxy of the settings. -/
def download (net : Network) (url : String) (fs : FileSystem) (p : Path) : Except LoadError Unit × FileSystem :=
  match fs.fetchOver net .direct url p with
  | (.ok (), fs) => (.ok (), fs)
  | (.error _, fs) =>
    let (done, fs) := fs.fetchOver net .relaxed url p
    (done.mapError .fetch, fs)

/-- Puts a text into a file. -/
def unpack (text : String) (fs : FileSystem) (p : Path) : Except LoadError Unit × FileSystem :=
  match fs.write p text.toUTF8 with
  | .ok fs => (.ok (), fs)
  | .error error => (.error (.temporary error), fs)

/-- Reads the document at a location. -/
def ofLocation (net : Network) (fs : FileSystem) (s : Settings) (location : String) :
    Except LoadError RuleSet × FileSystem :=
  if isUrlLocation location then throughTemporary fs s (download net location)
  else if fs.pathExists ⟨location⟩ then (ofFile fs ⟨location⟩, fs)
  else match builtin? location with
    | some text => throughTemporary fs s (unpack text)
    | none => (ofFile fs ⟨location⟩, fs)

/-! ## All rules of a run -/

/-- The rules of the base document and of the document that the settings name. -/
def loadOver (net : Network) (fs : FileSystem) (s : Settings) (base : String) :
    Except LoadError RuleSet × FileSystem :=
  match ofText base with
  | .error error => (.error (.document error), fs)
  | .ok rules =>
    match s.hintFile with
    | none => (.ok rules, fs)
    | some location =>
      let (loaded, fs) := ofLocation net fs s location
      (loaded.map rules.append, fs)

/-- The rules of a run, without a network unless there is one. -/
def load (fs : FileSystem) (s : Settings) (base : String) (net : Network := .none) :
    Except LoadError RuleSet × FileSystem :=
  loadOver net fs s base

end RuleSet

end DependencyEvidence
