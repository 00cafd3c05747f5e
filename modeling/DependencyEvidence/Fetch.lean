import DependencyEvidence.FileSystem
import DependencyEvidence.Url

/-!
# Fetching files

A URL is fetched into a file. If it leads to a file of this machine, that file is copied; anything else only a network
could deliver, and what a network delivers is a parameter (`Network`). Without a network, such a URL is out of reach.
-/

namespace DependencyEvidence

/-! ## Networks -/

/-- The two ways to ask for a URL. -/
inductive FetchMode where
  /-- Past all proxies. -/
  | direct
  /-- Through the proxy of the settings. -/
  | relaxed
deriving DecidableEq, Repr

/-- What comes of a request over a network. -/
inductive Delivery where
  | nothing
  /-- Content, of which the end may be missing. -/
  | content (bytes : ByteArray) (complete : Bool)

/-- What comes of the requests for all URLs. -/
abbrev Network := FetchMode → String → Delivery

/-- No network. -/
def Network.none : Network := fun _ _ => .nothing

/-! ## Fetching -/

/-- Why a URL cannot be fetched. -/
inductive FetchError where
  | invalidUrl (url : String)
  | unreachable (url : String)
  /-- The file cannot be copied. -/
  | file (path : Path) (error : FileError)
deriving DecidableEq, Repr

/-- What is said about the error. -/
def FetchError.message : FetchError → String
  | .invalidUrl url => "invalid URL '" ++ url ++ "'"
  | .unreachable url => "request to " ++ url ++ " failed: no connection"
  | .file path error => "unable to write " ++ path.text ++ ": " ++ error.message

namespace FileSystem

/-- Fetches a URL into a file, over the one that is there. A delivery that breaks off leaves what has come. -/
def fetchOver (net : Network) (mode : FetchMode) (fs : FileSystem) (url : String) (destination : Path) :
    Except FetchError Unit × FileSystem :=
  match Url.parse? url with
  | none => (.error (.invalidUrl url), fs)
  | some (.file source) =>
    let (done, fs) := fs.copy source destination
    (done.mapError (.file source), fs)
  | some (.unspelled path) => (.error (.file ⟨String.ofList (Text.readableText path)⟩ (fs.unspelledError path)), fs)
  | some .elsewhere =>
    match net mode url with
    | .nothing => (.error (.unreachable url), fs)
    | .content bytes complete =>
      match fs.write destination bytes with
      | .ok fs => (if complete then .ok () else .error (.unreachable url), fs)
      | .error error => (.error (.file destination error), fs)

/-- Fetches a URL into a file where there is no network. -/
def fetch (fs : FileSystem) (url : String) (destination : Path) : Except FetchError FileSystem :=
  let (done, fs) := fs.fetchOver .none .direct url destination
  done.map fun _ => fs

end FileSystem

end DependencyEvidence
