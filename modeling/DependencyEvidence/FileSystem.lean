import DependencyEvidence.Path
import DependencyEvidence.Text.Bytes

/-!
# File systems

A file system is a value: a list of files and directories, each with the names that lead to it, and the places where
programs look for things by themselves. Reading and writing are functions on it. Names are texts. Files have
permissions, and there may be directories from which nothing can be taken away.

* `FileSystem.locate` follows a path to something that exists.
* `FileSystem.read`, `readText`, `write` and `copy` work as one expects, and say why they cannot. A copy belongs to the
  program, and what its owner may do with it is what the owner of the source may do with that.
* `FileSystem.createTemporary` makes a file with a name of its own, and `release` removes it again, if that can be done.
-/

namespace DependencyEvidence

/-! ## Errors -/

/-- Why something cannot be had. -/
inductive Hindrance where
  /-- It is not there. -/
  | absence
  /-- It is there, and the permissions do not allow it. -/
  | permissions
  /-- It is there, and it is for its owner only or for nobody. -/
  | ownership
deriving DecidableEq, Repr

/-- Why an access failed. -/
inductive FileError where
  /-- There is nothing that could be used. -/
  | notFound {hindrance : Hindrance}
  | isADirectory
  | notADirectory
  /-- A name is too long. -/
  | invalidName
  /-- The content is no text. -/
  | invalidData
  /-- The path holds a null character. -/
  | nullInPath
  /-- What was to be copied is no regular file. -/
  | notAFile
  /-- No new name can be found. -/
  | alreadyExists
deriving DecidableEq, Repr

namespace FileError

/-- Nothing is there. -/
@[match_pattern] def absent : FileError := @notFound .absence

/-- The permissions do not allow it. -/
@[match_pattern] def denied : FileError := @notFound .permissions

/-- It is for the owner only, or for nobody. -/
@[match_pattern] def notPermitted : FileError := @notFound .ownership

/-- What is said about a failed access. -/
def message : FileError → String
  | .absent => "No such file or directory (os error 2)"
  | .denied => "Permission denied (os error 13)"
  | .notPermitted => "Operation not permitted (os error 1)"
  | .isADirectory => "Is a directory (os error 21)"
  | .notADirectory => "Not a directory (os error 20)"
  | .invalidName => "File name too long (os error 36)"
  | .invalidData => "stream did not contain valid UTF-8"
  | .nullInPath => "file name contained an unexpected NUL byte"
  | .notAFile => "the source path is neither a regular file nor a symlink to a regular file"
  | .alreadyExists => "too many temporary files exist"

end FileError

/-! ## Permissions -/

/-- What may be done with a file. -/
structure Rights where
  read : Bool
  write : Bool
deriving DecidableEq, Repr

/-- What the program is to a file. -/
inductive Role where
  | owner
  /-- Another member of the group of the file. -/
  | member
  | stranger
deriving DecidableEq, Repr

/-- Who may do what with a file, and what the program is to it. A program that permissions do not stop is told as the
owner of all files, with all rights. -/
structure Permissions where
  role : Role
  owner : Rights
  group : Rights
  others : Rights
deriving DecidableEq, Repr

namespace Permissions

/-- What the program may do. -/
def rights (p : Permissions) : Rights :=
  match p.role with
  | .owner => p.owner
  | .member => p.group
  | .stranger => p.others

/-- The permissions of a new file. -/
def usual : Permissions := ⟨.owner, ⟨true, true⟩, ⟨true, false⟩, ⟨true, false⟩⟩

/-- The permissions of a new temporary file. -/
def confidential : Permissions := ⟨.owner, ⟨true, true⟩, ⟨false, false⟩, ⟨false, false⟩⟩

/-- The permissions of a copy of a file. It belongs to the program. -/
def ofCopy (p : Permissions) : Permissions := { p with role := .owner }

end Permissions

/-! ## Entries -/

/-- The place of a file or directory: the names that lead to it, the last one first. The root is the empty list. -/
abbrev Location := List String

/-- What a place holds. -/
inductive Entry where
  /-- A directory. To some, entries can only be added. -/
  | directory (isAppendOnly : Bool := false)
  | file (content : ByteArray) (permissions : Permissions := .usual)

/-- Files and directories, and where programs start from. Every entry's directory is an entry or the root. -/
structure FileSystem where
  entries : List (Location × Entry)
  /-- Where relative paths start. -/
  workingDirectory : Location
  /-- The directory for temporary files. -/
  temporaryDirectory : Path
  /-- The user's own directory. -/
  home : Option Path
deriving Inhabited

namespace FileSystem

/-! ## Looking things up -/

/-- What a place holds. -/
def entry? (fs : FileSystem) (place : Location) : Option Entry :=
  if place.isEmpty then some .directory else (fs.entries.find? (·.1 == place)).map (·.2)

/-- Whether a place is a directory. -/
def isDirectoryAt (fs : FileSystem) (place : Location) : Bool :=
  match fs.entry? place with
  | some (.directory _) => true
  | _ => false

/-- Whether a place is a directory from which nothing can be taken away. -/
def isAppendOnlyAt (fs : FileSystem) (place : Location) : Bool :=
  match fs.entry? place with
  | some (.directory isAppendOnly) => isAppendOnly
  | _ => false

/-- What the file at a place holds. -/
def contentAt (fs : FileSystem) (place : Location) : ByteArray :=
  match fs.entry? place with
  | some (.file content _) => content
  | _ => .empty

/-- The longest name, in bytes. -/
def nameLimit : Nat := 255

/-- The length that a whole path must stay below, in bytes. -/
def pathLimit : Nat := 4096

/-- Follows steps from a place. Every step, idle ones too, has to start in a directory. -/
def walk (fs : FileSystem) (place : Location) : List String → Except FileError Location
  | [] => .ok place
  | step :: rest =>
    if !fs.isDirectoryAt place then .error .notADirectory
    else if step = "" ∨ step = "." then fs.walk place rest
    else if step = ".." then fs.walk place.tail rest
    else if nameLimit < step.utf8ByteSize then .error .invalidName
    else match fs.entry? (step :: place) with
      | none => .error .absent
      | some _ => fs.walk (step :: place) rest

/-- The steps of a path, and the place where it starts. -/
def start (fs : FileSystem) (p : Path) : Except FileError (Location × List String) :=
  if p.text.toList.contains '\x00' then .error .nullInPath
  else if p.text = "" then .error .absent
  else if pathLimit ≤ p.text.utf8ByteSize then .error .invalidName
  else
    let steps := (Text.pieces '/' p.text.toList).map String.ofList
    .ok (if p.isAbsolute then [] else fs.workingDirectory, steps)

/-- The place that a path leads to, if there is something. -/
def locate (fs : FileSystem) (p : Path) : Except FileError Location := do
  let (place, steps) ← fs.start p
  fs.walk place steps

/-- Whether a path leads to something. -/
def pathExists (fs : FileSystem) (p : Path) : Bool := (fs.locate p).toBool

/-- Whether a path leads to a file. -/
def isFile (fs : FileSystem) (p : Path) : Bool :=
  match fs.locate p with
  | .ok place => !fs.isDirectoryAt place
  | .error _ => false

/-- Whether a path leads to a directory. -/
def isDirectory (fs : FileSystem) (p : Path) : Bool :=
  match fs.locate p with
  | .ok place => fs.isDirectoryAt place
  | .error _ => false

/-- How many entries a directory holds. -/
def countAt (fs : FileSystem) (place : Location) : Nat :=
  (fs.entries.filter fun e => !e.1.isEmpty && e.1.tail == place).length

/-! ## Paths that are no text -/

/-- Why steps that are given by their bytes do not lead from a place to anything, if some step is no text. -/
def stray (fs : FileSystem) (place : Location) : List (List UInt8) → FileError
  | [] => .absent
  | step :: rest =>
    match Text.text? step with
    | some name =>
      match fs.walk place [name] with
      | .ok place => fs.stray place rest
      | .error e => e
    | none =>
      if !fs.isDirectoryAt place then .notADirectory
      else if nameLimit < step.length then .invalidName
      else .absent

/-- Why a path from the root that is no text does not lead to anything. -/
def unspelledError (fs : FileSystem) (path : List UInt8) : FileError :=
  if path.contains 0 then .nullInPath
  else if pathLimit ≤ path.length then .invalidName
  else fs.stray [] (Text.pieces (UInt8.ofNat '/'.toNat) path)

/-! ## Reading -/

/-- The content of a file. -/
def read (fs : FileSystem) (p : Path) : Except FileError ByteArray := do
  match fs.entry? (← fs.locate p) with
  | some (.file content permissions) => if permissions.rights.read then .ok content else .error .denied
  | some (.directory _) => .error .isADirectory
  | none => .error .absent

/-- The content of a file as text. -/
def readText (fs : FileSystem) (p : Path) : Except FileError String := do
  match String.fromUTF8? (← fs.read p) with
  | some text => .ok text
  | none => .error .invalidData

/-! ## Writing -/

/-- Puts an entry at a place, over the one that is there. -/
def put (fs : FileSystem) (place : Location) (e : Entry) : FileSystem :=
  if fs.entries.any (·.1 == place) then
    { fs with entries := fs.entries.map fun old => if old.1 == place then (place, e) else old }
  else { fs with entries := fs.entries ++ [(place, e)] }

/-- Takes the entry at a place away. -/
def erase (fs : FileSystem) (place : Location) : FileSystem :=
  { fs with entries := fs.entries.filter (·.1 != place) }

/-- The place at which a file can be written: its directory exists, and no directory has its name. -/
def target (fs : FileSystem) (p : Path) : Except FileError Location := do
  let (place, steps) ← fs.start p
  match steps.reverse.dropWhile (· = "") with
  | [] => .error .isADirectory
  | last :: before =>
    let parent ← fs.walk place before.reverse
    if !fs.isDirectoryAt parent then .error .notADirectory
    else if steps.getLast? = some "" ∨ last = "." ∨ last = ".." then .error .isADirectory
    else if nameLimit < last.utf8ByteSize then .error .invalidName
    else if fs.isDirectoryAt (last :: parent) then .error .isADirectory
    else .ok (last :: parent)

/-- The place of a file that can be written, and its permissions there: those that it has, or those of a new file. -/
def writable (fs : FileSystem) (p : Path) : Except FileError (Location × Permissions) := do
  let place ← fs.target p
  match fs.entry? place with
  | some (.file _ permissions) => if permissions.rights.write then .ok (place, permissions) else .error .denied
  | _ => .ok (place, .usual)

/-- Writes a file, over the one that is there. -/
def write (fs : FileSystem) (p : Path) (content : ByteArray) : Except FileError FileSystem := do
  let (place, permissions) ← fs.writable p
  .ok (fs.put place (.file content permissions))

/-! ## Copying -/

/-- The place of a file that can be copied, and its permissions. -/
def copyable (fs : FileSystem) (p : Path) : Except FileError (Location × Permissions) := do
  let place ← fs.locate p
  match fs.entry? place with
  | some (.file _ permissions) => if permissions.rights.read then .ok (place, permissions) else .error .denied
  | _ => .error .notAFile

/-- Copies a file, over the one that is there. The target is emptied, then it gets the permissions of the source, which
only its owner can give it, and then the source is read. -/
def copy (fs : FileSystem) (source destination : Path) : Except FileError Unit × FileSystem :=
  match fs.copyable source, fs.writable destination with
  | .error error, _ => (.error error, fs)
  | .ok _, .error error => (.error error, fs)
  | .ok (origin, permissions), .ok (place, old) =>
    let emptied := fs.put place (.file .empty old)
    if old.role = .owner then
      (.ok (), emptied.put place (.file (emptied.contentAt origin) permissions.ofCopy))
    else (.error .notPermitted, emptied)

/-! ## Temporary files -/

/-- The digits of a number, padded to six. -/
def sixDigits (n : Nat) : String :=
  let digits := Nat.toDigits 10 n
  String.ofList (List.replicate (6 - digits.length) '0' ++ digits)

/-- The name of the `n`-th temporary file with the given ends. -/
def temporaryName (head tail : String) (n : Nat) : String := head ++ sixDigits n ++ tail

/-- Makes an empty file with a new name in a directory, and tells its path. -/
def createTemporary (fs : FileSystem) (directory : Path) (head tail : String) :
    Except FileError (Path × FileSystem) := do
  let names := (List.range (fs.entries.length + 1)).map fun n => directory.join (temporaryName head tail n)
  match names.find? (!fs.pathExists ·) with
  | some p => .ok (p, fs.put (← fs.target p) (.file .empty .confidential))
  | none => .error .alreadyExists

/-- Removes a file. Its directory has to let it go. -/
def release (fs : FileSystem) (p : Path) : Except FileError FileSystem := do
  let place ← fs.locate p
  if fs.isDirectoryAt place then .error .isADirectory
  else if fs.isAppendOnlyAt place.tail then .error .notPermitted
  else .ok (fs.erase place)

/-- Removes a file if it can be removed, and leaves it where it is otherwise. -/
def discard (fs : FileSystem) (p : Path) : FileSystem :=
  match fs.release p with
  | .ok fs => fs
  | .error _ => fs

end FileSystem

end DependencyEvidence
