import DependencyEvidence.Path
import DependencyEvidence.Text.Bytes
import DependencyEvidence.Text.Runs

/-!
# Paths of files

The path of a file URL is resolved segment by segment (`Resolution.add`): dots are taken out, and the letter of a drive
in front replaces the host. What looks like the letter of a drive is never left by two dots.
-/

namespace DependencyEvidence.Url

/-! ## Characters -/

/-- Tabs and ends of lines do not count. -/
def isIgnored (c : Char) : Bool := c == '\t' || c == '\n' || c == '\r'

/-- The characters that count. -/
def counting (text : List Char) : List Char := text.filter (!isIgnored ·)

/-- Both slashes separate segments. -/
def isSlash (c : Char) : Bool := c == '/' || c == '\\'

/-- Where a path ends. -/
def endsPath (c : Char) : Bool := c == '?' || c == '#'

/-! ## Segments -/

/-- Whether a segment looks like the letter of a drive. -/
def isDrive : List Char → Bool
  | [letter, mark] => letter.isAlpha && (mark == ':' || mark == '|')
  | _ => false

/-- Whether a segment is a single dot, which may be percent-encoded. -/
def isDot (segment : List Char) : Bool := [".", "%2e"].contains (String.ofList (segment.map Char.toLower))

/-- Whether a segment is two dots, which may be percent-encoded. -/
def isDoubleDot (segment : List Char) : Bool :=
  ["..", ".%2e", "%2e.", "%2e%2e"].contains (String.ofList (segment.map Char.toLower))

/-- The letter of a drive at the front of a segment, and what else counts there, if the two are parted by a character
that does not count. -/
def partedDrive? (segment : List Char) : Option (List Char × List Char) :=
  match segment.dropWhile isIgnored with
  | letter :: more =>
    match more.dropWhile isIgnored with
    | ':' :: c :: rest =>
      let rest := counting rest
      if letter.isAlpha && isIgnored c && !rest.isEmpty then some ([letter, ':'], rest) else none
    | _ => none
  | [] => none

/-! ## Resolution -/

/-- A path that is being resolved: the segments so far, the last one first, and whether the letter of a drive has
replaced the host. -/
structure Resolution where
  segments : List (List Char)
  replacesHost : Bool

namespace Resolution

/-- Adds a segment. The letter of a drive in front gets a colon. -/
def add (r : Resolution) (text : List Char) : Resolution :=
  let segment := counting text
  match if r.segments.isEmpty then partedDrive? text else none with
  | some (drive, rest) => { r with segments := [rest, drive] }
  | none =>
    if isDot segment then r
    else if isDoubleDot segment then
      match r.segments with
      | last :: before => if isDrive last then r else { r with segments := before }
      | [] => r
    else if r.segments.isEmpty && isDrive segment then ⟨[[segment.headD ':', ':']], true⟩
    else { r with segments := segment :: r.segments }

/-- The segments that count, in order. Empty ones in front do not. -/
def resolved (r : Resolution) : List (List Char) := r.segments.reverse.dropWhile (·.isEmpty)

/-- Resolves a text. Dots at its end lead to a directory: behind them stands an empty segment. -/
def ofText (text : List Char) : Resolution :=
  let path := (text.takeWhile (!endsPath ·)).map fun c => if isSlash c then '/' else c
  let segments := Text.pieces '/' path
  let r := segments.foldl add ⟨[], false⟩
  let last := counting (segments.getLastD [])
  if isDot last || isDoubleDot last then { r with segments := [] :: r.segments } else r

/-- The bytes of the path in the file system. It ends in a slash if the letter of a drive stands at its end. -/
def path (r : Resolution) : List UInt8 :=
  let path := Text.percentDecoded ('/' :: Text.joined '/' r.resolved)
  let drive := (path.drop (path.length - 2)).map fun b => Char.ofNat b.toNat
  if 2 < path.length && isDrive drive then path ++ String.utf8EncodeChar '/' else path

end Resolution

end DependencyEvidence.Url
