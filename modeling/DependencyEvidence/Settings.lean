import DependencyEvidence.FileSystem
import DependencyEvidence.Toml.Document

/-!
# Settings

What a run can be told: which analyzers take part, where further rules come from, and how files are fetched. Settings
are written in TOML; everything may be left out, and names that are not known do not count.

* `Settings.ofText` reads a document.
* `Settings.load` looks for the document: the one that was asked for, else the project's, else the user's.
-/

namespace DependencyEvidence

/-! ## The settings -/

/-- Which of the built-in analyzers take part. -/
structure AnalyzerSwitches where
  hint : Bool := true
  dependencyMerging : Bool := true
  rubyGemspec : Bool := true
  rubyBundler : Bool := true
  swiftPackageManager : Bool := true
  cocoaPods : Bool := true
deriving DecidableEq, Repr, Inhabited

/-- The proxy of a second attempt to fetch a file. -/
structure ProxySettings where
  url : Option String := none
  username : Option String := none
  password : Option String := none
  acceptInvalidCertificates : Bool := false
deriving DecidableEq, Repr, Inhabited

/-- What a run can be told. -/
structure Settings where
  /-- The directory for temporary files, if not the system's. -/
  temporaryDirectory : Option Path := none
  analyzers : AnalyzerSwitches := {}
  /-- Where further hint rules are: a URL, a path, or the name of a built-in document. -/
  hintFile : Option String := none
  proxy : ProxySettings := {}
  /-- How many seconds a download may take. -/
  downloadTimeout : Nat := 30
  /-- Whether the dependencies of a phase may be analyzed at the same time. The outcome is the same. -/
  parallel : Bool := false
deriving DecidableEq, Repr, Inhabited

/-- Why settings cannot be had. -/
inductive SettingsError where
  | unreadable (error : FileError)
  /-- The document is not TOML, or a value has the wrong type. -/
  | malformed
deriving DecidableEq, Repr

/-- What is said about the error. -/
def SettingsError.message : SettingsError → String
  | .unreadable error => error.message
  | .malformed => "malformed settings"

/-! ## Reading -/

/-- A field that may be absent. -/
def Toml.fieldOr? {α : Type} (fields : List (String × Toml)) (name : String) (default : α) (read : Toml → Option α) :
    Option α :=
  match fields.lookup name with
  | none => some default
  | some v => read v

/-- Reads a text as one that is there. -/
def Toml.someText? (v : Toml) : Option (Option String) := v.text?.map some

/-- Reads the switches. -/
def AnalyzerSwitches.ofToml? (v : Toml) : Option AnalyzerSwitches := do
  let fields ← v.fields?
    ["hint", "dependency_merging", "ruby_gemspec", "ruby_bundler", "swift_package_manager", "cocoapods"]
  let switch := fun name => Toml.fieldOr? fields name true Toml.bool?
  some {
    hint := ← switch "hint"
    dependencyMerging := ← switch "dependency_merging"
    rubyGemspec := ← switch "ruby_gemspec"
    rubyBundler := ← switch "ruby_bundler"
    swiftPackageManager := ← switch "swift_package_manager"
    cocoaPods := ← switch "cocoapods" }

/-- Reads the proxy. -/
def ProxySettings.ofToml? (v : Toml) : Option ProxySettings := do
  let fields ← v.fields? ["url", "username", "password", "accept_invalid_certs"]
  some {
    url := ← Toml.fieldOr? fields "url" none Toml.someText?
    username := ← Toml.fieldOr? fields "username" none Toml.someText?
    password := ← Toml.fieldOr? fields "password" none Toml.someText?
    acceptInvalidCertificates := ← Toml.fieldOr? fields "accept_invalid_certs" false Toml.bool? }

/-- Reads a record for the sake of its only field. -/
def Toml.single? {α : Type} (name : String) (default : α) (read : Toml → Option α) (v : Toml) : Option α := do
  Toml.fieldOr? (← v.fields? [name]) name default read

namespace Settings

/-- Reads the settings. -/
def ofToml? (v : Toml) : Option Settings := do
  let fields ← v.fields? ["temp_directory", "analyzers", "hints", "proxy", "download", "analysis"]
  some {
    temporaryDirectory := (← Toml.fieldOr? fields "temp_directory" none Toml.someText?).map Path.mk
    analyzers := ← Toml.fieldOr? fields "analyzers" {} AnalyzerSwitches.ofToml?
    hintFile := ← Toml.fieldOr? fields "hints" none (Toml.single? "file" none Toml.someText?)
    proxy := ← Toml.fieldOr? fields "proxy" {} ProxySettings.ofToml?
    downloadTimeout := ← Toml.fieldOr? fields "download" 30 (Toml.single? "timeout_secs" 30 Toml.natural?)
    parallel := ← Toml.fieldOr? fields "analysis" false (Toml.single? "parallel" false Toml.bool?) }

/-- Reads a document. -/
def ofText (text : String) : Except SettingsError Settings :=
  match (Toml.parse? text).bind ofToml? with
  | some s => .ok s
  | none => .error .malformed

/-! ## Finding the document -/

/-- Where the settings of a project are. -/
def projectFile (project : Path) : Path := (project.join ".evidence-engine").join "config.toml"

/-- Where the settings of a user are. -/
def userFile (home : Path) : Path := ((home.join ".config").join "evidence-engine").join "config.toml"

/-- The document that applies: the one that was asked for, whether it exists or not, or else the first that exists. -/
def applicable? (fs : FileSystem) (project : Path) (requested : Option Path) : Option Path :=
  requested <|> ([projectFile project] ++ (fs.home.map userFile).toList).find? fs.pathExists

/-- The settings for a project. -/
def load (fs : FileSystem) (project : Path) (requested : Option Path) : Except SettingsError Settings :=
  match applicable? fs project requested with
  | none => .ok {}
  | some file =>
    match fs.readText file with
    | .ok text => ofText text
    | .error error => .error (.unreadable error)

end Settings

end DependencyEvidence
