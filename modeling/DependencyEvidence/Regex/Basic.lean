import DependencyEvidence.Unicode.CaseOrbit
import DependencyEvidence.Unicode.Property

/-!
# Regular expressions

Classes of characters (`CharClass`), conditions on a place between two characters (`Assertion`), and the expressions
that are built from them (`Regex`). All three are data: what they mean is said by `CharClass.mem`,
`Assertion.holdsBetween` and `Regex.advance`.
-/

namespace DependencyEvidence

/-! ## Classes of characters -/

/-- A class of characters. -/
inductive CharClass where
  | empty
  /-- The characters from the first to the last. -/
  | interval (first last : Char)
  /-- The characters of a table. -/
  | table (set : Unicode.CodeSet)
  | union (a b : CharClass)
  | inter (a b : CharClass)
  | complement (a : CharClass)
  /-- The characters that differ from one of the class in case only. -/
  | anyCase (a : CharClass)
  /-- The same where only the case of ASCII letters counts. -/
  | anyAsciiCase (a : CharClass)

namespace CharClass

/-- Whether a character is in the class. -/
def mem : CharClass → Char → Bool
  | empty, _ => false
  | interval first last, c => first ≤ c && c ≤ last
  | table set, c => set.mem c
  | union a b, c => a.mem c || b.mem c
  | inter a b, c => a.mem c && b.mem c
  | complement a, c => !a.mem c
  | anyCase a, c => (Unicode.caseOrbit c).any a.mem
  | anyAsciiCase a, c => a.mem c || a.mem c.toLower || a.mem c.toUpper

/-- The letters of ASCII that differ in case only from letters between two code points. -/
def asciiPartners (i : Nat × Nat) : List (Nat × Nat) :=
  [(max i.1 0x41 + 0x20, min i.2 0x5A + 0x20), (max i.1 0x61 - 0x20, min i.2 0x7A - 0x20)]

/-- The characters of the class as a set of code points. -/
def codeSet : CharClass → Unicode.CodeSet
  | empty => .ofIntervals []
  | interval first last => .ofIntervals (if first ≤ last then [(first.toNat, last.toNat)] else [])
  | table set => set
  | union a b => .union [a.codeSet, b.codeSet]
  | inter a b => a.codeSet.inter b.codeSet
  | complement a => a.codeSet.complement
  | anyCase a => a.codeSet.anyCase
  | anyAsciiCase a =>
    let intervals := a.codeSet.intervals.toList
    .ofIntervals (intervals ++ (intervals.flatMap asciiPartners).filter fun i => i.1 ≤ i.2)

/-- The class of a single character. -/
def single (c : Char) : CharClass := interval c c

/-- The characters of some class of a list. -/
def unions (classes : List CharClass) : CharClass := classes.foldl union empty

/-- The characters of the first class that are not in the second. -/
def difference (a b : CharClass) : CharClass := inter a (complement b)

/-- The characters of exactly one of the classes. -/
def symmetricDifference (a b : CharClass) : CharClass := union (difference a b) (difference b a)

/-- A class of ASCII characters from its intervals. -/
def ofIntervals (intervals : List (Char × Char)) : CharClass := unions (intervals.map fun i => interval i.1 i.2)

/-- The letters, digits and underscore of ASCII. -/
def asciiWords : CharClass := ofIntervals [('0', '9'), ('A', 'Z'), ('_', '_'), ('a', 'z')]

/-- The characters of words. -/
def words (unicode : Bool) : CharClass := if unicode then table Unicode.wordChars else asciiWords

/-- The decimal digits. -/
def digits (unicode : Bool) : CharClass := if unicode then table Unicode.decimals else interval '0' '9'

/-- The blanks. -/
def blanks (unicode : Bool) : CharClass :=
  if unicode then table Unicode.blanks else ofIntervals [('\t', '\r'), (' ', ' ')]

/-- The characters that a dot stands for. -/
def dot (withLineEnds crlf : Bool) : CharClass :=
  if withLineEnds then complement empty
  else if crlf then complement (union (single '\n') (single '\r'))
  else complement (single '\n')

end CharClass

/-! ## Assertions -/

/-- The ways in which a place can lie at the edge of a word. -/
inductive WordEdge where
  /-- A word starts or ends here. -/
  | boundary
  | noBoundary
  | start
  | finish
  /-- No word character stands before. -/
  | startHalf
  /-- No word character stands after. -/
  | finishHalf
deriving DecidableEq, Repr

/-- A condition on a place in a text. -/
inductive Assertion where
  | textStart
  | textEnd
  /-- The start of a line; if `crlf`, a carriage return ends lines too. -/
  | lineStart (crlf : Bool)
  | lineEnd (crlf : Bool)
  | wordEdge (edge : WordEdge) (unicode : Bool)
deriving DecidableEq, Repr

/-- Whether a place lies at such an edge, given whether word characters stand before and after it. -/
def WordEdge.holds : WordEdge → Bool → Bool → Bool
  | .boundary, before, after => before != after
  | .noBoundary, before, after => before == after
  | .start, before, after => !before && after
  | .finish, before, after => before && !after
  | .startHalf, before, _ => !before
  | .finishHalf, _, after => !after

/-- Whether the assertion holds between two characters, either of which the edge of the text may take away. -/
def Assertion.holdsBetween : Assertion → Option Char → Option Char → Bool
  | .textStart, before, _ => before.isNone
  | .textEnd, _, after => after.isNone
  | .lineStart false, before, _ => before.isNone || before == some '\n'
  | .lineStart true, before, after =>
    before.isNone || before == some '\n' || (before == some '\r' && after != some '\n')
  | .lineEnd false, _, after => after.isNone || after == some '\n'
  | .lineEnd true, before, after =>
    after.isNone || after == some '\r' || (after == some '\n' && before != some '\r')
  | .wordEdge edge unicode, before, after =>
    edge.holds (before.any (CharClass.words unicode).mem) (after.any (CharClass.words unicode).mem)

/-! ## Expressions -/

/-- A regular expression. -/
inductive Regex where
  /-- The empty text. -/
  | empty
  /-- One character of a class. -/
  | one (set : CharClass)
  /-- The empty text at a place where the assertion holds. -/
  | holds (assertion : Assertion)
  | andThen (r s : Regex)
  | either (r s : Regex)
  /-- At least `least` copies, and at most `most` if there is a bound. -/
  | repeated (r : Regex) (least : Nat) (most : Option Nat)

namespace Regex

/-- Expressions one after another. -/
def sequence (parts : List Regex) : Regex :=
  match parts with
  | [] => .empty
  | [r] => r
  | r :: rest => rest.foldl .andThen r

/-- Any of some expressions. -/
def anyOf (branches : List Regex) : Regex :=
  match branches with
  | [] => .empty
  | [r] => r
  | r :: rest => rest.foldl .either r

end Regex

end DependencyEvidence
