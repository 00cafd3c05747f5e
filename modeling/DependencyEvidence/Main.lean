import DependencyEvidence.CommandLine.Footprint

/-!
# The program

Brings what a session looks at into a file system, runs the session, and writes down what it has changed.
-/

namespace DependencyEvidence.CommandLine

/-- The path of a place, as the system knows it. -/
def systemPath (place : Location) : String := "/" ++ "/".intercalate place.reverse

/-- The place of an absolute path without dots. -/
def placeOfSystemPath (path : String) : Location := ((path.splitOn "/").filter (· ≠ "")).reverse

/-- What the system has at a place. -/
def look (place : Location) : IO (Option Entry) := do
  let path := systemPath place
  try return some (.file (← IO.FS.readBinFile path))
  catch _ =>
    try
      let _ ← IO.FS.realPath path
      return some .directory
    catch _ => return none

/-- Brings a place and those above it into a file system. -/
def bring (fs : FileSystem) : Location → IO FileSystem
  | [] => return fs
  | name :: above => do
    let fs ← bring fs above
    if (fs.entry? (name :: above)).isSome then return fs
    match ← look (name :: above) with
    | some e => return fs.put (name :: above) e
    | none => return fs

/-- Brings the footprint of a session into a file system. -/
def bringFootprint (fs : FileSystem) (stdin : ByteArray) (arguments : List String) : IO FileSystem :=
  (footprint fs stdin arguments).foldlM bring fs

/-- Writes down the files that a session has made or changed. -/
def writeChanges (before after : FileSystem) : IO Unit := do
  for (place, e) in after.entries do
    if let .file content _ := e then
      let isOld := match before.entry? place with
        | some (.file old _) => old == content
        | _ => false
      if !isOld then IO.FS.writeBinFile (systemPath place) content

/-- Runs a session. -/
def runProgram (arguments : List String) : IO UInt32 := do
  let here := placeOfSystemPath (← IO.currentDir).toString
  let start : FileSystem := {
    entries := []
    workingDirectory := here
    temporaryDirectory := ⟨(← IO.getEnv "TMPDIR").getD "/tmp"⟩
    home := (← IO.getEnv "HOME").map Path.mk }
  let stdin ← if readsStandardInput arguments then (← IO.getStdin).readBinToEnd else pure .empty
  let fs ← bring start here
  let fs ← bringFootprint fs stdin arguments
  let fs ← bringFootprint fs stdin arguments
  let o := session fs stdin arguments
  writeChanges fs o.fileSystem
  IO.print o.output
  IO.eprint o.messages
  return UInt32.ofNat o.exitCode

end DependencyEvidence.CommandLine

/-- Reads dependencies, resolves their evidence, and prints a report. -/
def main (arguments : List String) : IO UInt32 := DependencyEvidence.CommandLine.runProgram arguments
