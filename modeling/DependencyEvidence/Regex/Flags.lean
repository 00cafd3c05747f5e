import DependencyEvidence.Text.Scan
import DependencyEvidence.Unicode.Blank

/-!
# Flags of patterns

The flags under which a part of a pattern is read, changes to them as they are written between `(?` and `)` or `:`, and
the blanks and comments that verbose patterns may hold anywhere.
-/

namespace DependencyEvidence.Regex

/-- The flags that hold at some place of a pattern. -/
structure Flags where
  ignoreCase : Bool
  /-- Line ends count as ends for `^` and `$`. -/
  multiLine : Bool
  /-- The dot stands for line ends too. -/
  dotAll : Bool
  /-- Classes hold characters of all scripts. -/
  unicode : Bool
  /-- A carriage return belongs to line ends. -/
  crlf : Bool
  /-- Blanks and comments do not count. -/
  verbose : Bool
  /-- Repetitions without a mark prefer fewer copies. -/
  lazily : Bool
deriving DecidableEq, Repr

/-- The flags at the start of a pattern. -/
def Flags.start : Flags := ⟨false, false, false, true, false, false, false⟩

/-! ## Changes -/

/-- The letters of flags. -/
def flagLetters : List Char := ['i', 'm', 's', 'u', 'R', 'x', 'U']

/-- Sets the flag with a letter. -/
def Flags.set (f : Flags) (letter : Char) (value : Bool) : Flags :=
  match letter with
  | 'i' => { f with ignoreCase := value }
  | 'm' => { f with multiLine := value }
  | 's' => { f with dotAll := value }
  | 'u' => { f with unicode := value }
  | 'R' => { f with crlf := value }
  | 'x' => { f with verbose := value }
  | 'U' => { f with lazily := value }
  | _ => f

/-- Applies a change: the letters before the hyphen are set and those after it are cleared. There is no result for an
unknown letter, for one that stands twice, and for a hyphen that stands twice or at the end. -/
def Flags.change? (f : Flags) (letters : List Char) : Option Flags :=
  if letters.Nodup ∧ letters.getLast? ≠ some '-' ∧ letters.all (fun c => c == '-' || flagLetters.contains c) then
    let set := (letters.takeWhile (· ≠ '-')).foldl (fun f c => f.set c true) f
    some ((letters.dropWhile (· ≠ '-')).foldl (fun f c => f.set c false) set)
  else none

/-! ## Blanks and comments -/

mutual

/-- Drops blanks and comments, which run from `#` to the end of the line. -/
def afterBlanks : List Char → List Char
  | [] => []
  | c :: rest => if Unicode.isBlank c then afterBlanks rest else if c = '#' then afterComment rest else c :: rest

/-- Drops the rest of a comment, and the blanks and comments behind it. -/
def afterComment : List Char → List Char
  | [] => []
  | c :: rest => if c = '\n' then afterBlanks rest else afterComment rest

end

/-- Drops the blanks and comments of verbose patterns. -/
def skipBlanks (f : Flags) : Scan Unit := fun text => some ((), if f.verbose then afterBlanks text else text)

/-- Takes a character that passes a test, with the blanks behind it, or stops. -/
def spacedStep (f : Flags) (test : Char → Bool) (taken : List Char) : Scan (Scan.Step (List Char) (List Char)) := do
  match ← Scan.peek with
  | some c =>
    if test c then
      let _ ← Scan.next
      skipBlanks f
      return .again (c :: taken)
    else return .stop taken.reverse
  | none => return .stop taken.reverse

/-- Takes characters that pass a test, with blanks after each. -/
def takeSpaced (f : Flags) (test : Char → Bool) : Scan (List Char) := Scan.iterate (spacedStep f test) []

end DependencyEvidence.Regex
