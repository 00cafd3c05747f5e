import DependencyEvidence.Dependency.References
import DependencyEvidence.Ecosystem
import DependencyEvidence.Evidence.Collection
import DependencyEvidence.FileSystem
import DependencyEvidence.Sha256

/-!
# Dependencies

A dependency is a file that a scan has found, with what is known about it and the dependencies that were folded into
it. The file has two paths: the one under which it was found, and the one where it can be read, which differ for files
that were taken out of an archive.

* `Dependency.ofPath` makes the record of a file, and `Dependency.normalized` fills in what a record left out.
* `Dependency.evidence` reads an axis, and `Dependency.withEvidence` replaces it.
-/

namespace DependencyEvidence

/-- What is known about a single file. -/
structure FileRecord where
  filePath : Path
  /-- Where the file can be read. -/
  actualPath : Path
  fileName : String
  /-- The digest of the content in hexadecimal; empty when it is not known. -/
  sha256 : String
  ecosystem : Ecosystem
  /-- The key by which files of one installed package are recognised. -/
  packagePath : Option String
  name : Option String
  vendor : Collection
  product : Collection
  version : Collection
  references : References
deriving DecidableEq, Inhabited

/-- A file and the files that were folded into it. -/
structure Dependency extends FileRecord where
  related : List Dependency
deriving Inhabited

namespace Dependency

/-- The name of the file that a path leads to; empty if the path ends in no name. -/
def nameAt (p : Path) : String := p.fileName?.getD ""

/-- The record of the file at a path. -/
def ofPath (p : Path) : Dependency where
  filePath := p
  actualPath := p
  fileName := nameAt p
  sha256 := ""
  ecosystem := .unknown
  packagePath := none
  name := none
  vendor := .empty
  product := .empty
  version := .empty
  references := .empty
  related := []

/-- Fills in the actual path and the file name where they are empty. -/
def normalized (d : Dependency) : Dependency :=
  { d with
    actualPath := if d.actualPath.text = "" then d.filePath else d.actualPath
    fileName := if d.fileName = "" then nameAt d.filePath else d.fileName }

/-- Puts the digest of the file's content into the record. -/
def withDigest (d : Dependency) (fs : FileSystem) : Except FileError Dependency := do
  .ok { d with sha256 := Sha256.hex (← fs.read d.actualPath) }

/-! ## Evidence -/

/-- The evidence of an axis. -/
def evidence (d : Dependency) : Axis → Collection
  | .vendor => d.vendor
  | .product => d.product
  | .version => d.version

/-- Replaces the evidence of an axis. -/
def withEvidence (d : Dependency) (a : Axis) (c : Collection) : Dependency :=
  match a with
  | .vendor => { d with vendor := c }
  | .product => { d with product := c }
  | .version => { d with version := c }

/-- Adds an observation to an axis. -/
def addEvidence (d : Dependency) (a : Axis) (e : Evidence) : Dependency := d.withEvidence a ((d.evidence a).add e)

/-- Removes an observation from an axis, and tells whether it was there. -/
def removeEvidence (d : Dependency) (a : Axis) (e : Evidence) : Bool × Dependency :=
  let r := (d.evidence a).remove e
  (r.1, d.withEvidence a r.2)

/-! ## Related dependencies and references -/

/-- Adds a related dependency. -/
def addRelated (d r : Dependency) : Dependency := { d with related := d.related ++ [r] }

/-- Detaches all related dependencies. -/
def takeRelated (d : Dependency) : List Dependency × Dependency := (d.related, { d with related := [] })

/-- Adds names of projects that refer to the dependency. -/
def addReferences (d : Dependency) (names : List String) : Dependency :=
  { d with references := d.references.extend names }

/-- The name of the directory where the file can be read. -/
def parentName? (d : Dependency) : Option String := d.actualPath.parentName?

end Dependency

end DependencyEvidence
