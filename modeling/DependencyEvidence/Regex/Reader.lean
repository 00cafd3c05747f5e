import DependencyEvidence.Regex.Automaton
import DependencyEvidence.Regex.Bracket
import DependencyEvidence.Unicode.Addition

/-!
# Reading patterns

A pattern is read from left to right. Groups that are open are held in a list, with the flags that hold again when
they close; within a group there are the branches that are complete and the items of the branch that is being read.

* `Regex.parse?` reads a pattern.
* `Piece.depth` counts the nesting of a pattern, and `Automaton.fits` tells whether its size is bearable.
-/

namespace DependencyEvidence.Regex

/-! ## Pieces -/

/-- An expression with its outline and the depth of its nesting. -/
structure Piece where
  regex : Regex
  outline : Outline
  depth : Nat

/-- One item of a branch: an expression, or a group that only sets flags. -/
inductive Item where
  | piece (p : Piece)
  | flags

namespace Piece

/-- The empty text. -/
def empty : Piece := ⟨.empty, .empty, 0⟩

/-- One character of a class. -/
def one (set : CharClass) (depth : Nat) : Piece := ⟨.one set, .ofSet set.codeSet, depth⟩

/-- An assertion. -/
def holds (a : Assertion) : Piece := ⟨.holds a, .holds a, 0⟩

/-- A repetition. -/
def repeated (p : Piece) (least : Nat) (most : Option Nat) (lazily : Bool) : Piece :=
  ⟨.repeated p.regex least most, .repetition p.outline least most lazily, p.depth + 1⟩

/-- A group, which has a number if a match remembers it. -/
def grouped (p : Piece) (number : Option Nat) : Piece :=
  { p with outline := match number with | some n => .group n p.outline | none => p.outline, depth := p.depth + 1 }

/-- The depth of something that holds pieces. -/
def depthAround (pieces : List Piece) : Nat := pieces.foldl (fun d p => max d p.depth) 0 + 1

/-- The expression of an item. -/
def ofItem : Item → Piece
  | .piece p => p
  | .flags => empty

/-- Items one after another. A single item nests nothing. -/
def sequence (items : List Item) : Piece :=
  match items.map ofItem with
  | [] => empty
  | [p] => p
  | pieces => ⟨.sequence (pieces.map (·.regex)), .inOrder (pieces.map (·.outline)), depthAround pieces⟩

/-- Branches to choose from. -/
def anyOf (branches : List Piece) : Piece :=
  match branches with
  | [p] => p
  | pieces => ⟨.anyOf (pieces.map (·.regex)), .anyOfBehind (pieces.map (·.outline)), depthAround pieces⟩

end Piece

/-! ## Open groups -/

/-- An open group, or the pattern itself: its number if a match remembers it, the flags that hold behind it, the
branches and items so far, each with the last one first. -/
structure Group where
  number : Option Nat
  flagsAfter : Flags
  branches : List Piece
  items : List Item

/-- A group in which nothing has been read. -/
def Group.opened (number : Option Nat) (flagsAfter : Flags) : Group := ⟨number, flagsAfter, [], []⟩

/-- What has been read of a group as one expression. -/
def Group.joined (g : Group) : Piece := .anyOf (Piece.sequence g.items.reverse :: g.branches).reverse

/-- A reader within a pattern: the flags that hold, the names and the number of the groups so far, and the open groups,
the innermost one first. -/
structure Reader where
  flags : Flags
  names : List (List Char)
  groups : Nat
  group : Group
  outer : List Group

namespace Reader

/-- The reader at the start of a pattern. -/
def start : Reader := ⟨.start, [], 0, .opened none .start, []⟩

/-- Adds an item. -/
def push (r : Reader) (i : Item) : Reader := { r with group := { r.group with items := i :: r.group.items } }

/-- Adds an expression. -/
def pushPiece (r : Reader) (p : Piece) : Reader := r.push (.piece p)

/-- Starts another branch. -/
def branch (r : Reader) : Reader :=
  { r with group := { r.group with branches := .sequence r.group.items.reverse :: r.group.branches, items := [] } }

/-- Opens a group that a match does not remember, under some flags. -/
def openPlain (r : Reader) (flags : Flags) : Reader :=
  { r with flags, group := .opened none r.flags, outer := r.group :: r.outer }

/-- Opens a group that a match remembers. -/
def openGroup (r : Reader) : Reader :=
  { r with groups := r.groups + 1, group := .opened (some (r.groups + 1)) r.flags, outer := r.group :: r.outer }

/-- Closes the innermost group. -/
def closeGroup? (r : Reader) : Option Reader :=
  match r.outer with
  | [] => none
  | next :: outer =>
    let p := r.group.joined.grouped r.group.number
    some ({ r with flags := r.group.flagsAfter, group := next, outer }.pushPiece p)

/-- Puts the last expression under a repetition. A mark behind the repetition tells whether it prefers fewer copies, or
more where the flags swap this. -/
def repeatLast? (r : Reader) (least : Nat) (most : Option Nat) (marked : Bool) : Option Reader :=
  match r.group.items with
  | .piece p :: items =>
    some ({ r with group := { r.group with items } }.pushPiece (p.repeated least most (marked != r.flags.lazily)))
  | _ => none

/-- The expression of the pattern, if no group is open. -/
def finish? (r : Reader) : Option Piece := if r.outer.isEmpty then some r.group.joined else none

end Reader

/-! ## Repetitions -/

/-- The bound below which a count must stay. -/
def countLimit : Nat := Nat.pow 2 32

/-- Reads a count. -/
def count (f : Flags) : Scan Nat := do
  Scan.skipWhile Unicode.isBlank
  let digits ← takeSpaced f Char.isDigit
  Scan.skipWhile Unicode.isBlank
  let n := Text.numberOf 10 digits
  if digits.isEmpty || countLimit ≤ n then failure else pure n

/-- Reads what may follow the least number of copies: a comma and the greatest, or a comma if there is none. Without a
comma both numbers are the same. -/
def bound (f : Flags) (least : Nat) : Scan (Option Nat) := do
  if ← Scan.accept "," then
    skipBlanks f
    if (← Scan.peek) == some '\x7d' then return none
    else
      let most ← count f
      if most < least then failure else return some most
  else return some least

/-- Reads counts behind an opening brace, and whether a mark follows them. -/
def counts (f : Flags) : Scan (Nat × Option Nat × Bool) := do
  skipBlanks f
  let least ← count f
  let most ← bound f least
  Scan.character '\x7d'
  skipBlanks f
  return (least, most, ← Scan.accept "?")

/-! ## Groups -/

/-- Whether the name of a group may start with a character. -/
def startsName (c : Char) : Bool := c == '_' || Unicode.nameLetters.mem c

/-- Whether a character may stand in the name of a group behind its start. -/
def continuesName (c : Char) : Bool :=
  startsName c || c == '.' || c == '[' || c == ']' || Unicode.nameNumbers.mem c

/-- Whether characters are a name. -/
def isGroupName : List Char → Bool
  | c :: rest => startsName c && rest.all continuesName
  | [] => false

/-- Reads the name of a group, up to the bracket behind it. -/
def groupName (names : List (List Char)) : Scan (List Char) := do
  let name ← Scan.takeWhile (· ≠ '>')
  Scan.character '>'
  if isGroupName name && !names.contains name then pure name else failure

/-- The reader behind a change of flags, which a colon makes the start of a group. -/
def Reader.changed? (r : Reader) (letters : List Char) (behind : Char) : Option Reader := do
  let flags ← r.flags.change? letters
  if behind = ':' then some (r.openPlain flags)
  else if letters.isEmpty then none
  else some ({ r with flags }.push .flags)

/-- Reads the name of a group and opens the group. -/
def namedGroup (r : Reader) : Scan Reader := do
  let name ← groupName r.names
  return { r with names := name :: r.names }.openGroup

/-- Reads a change of flags up to its end. -/
def flagGroup (r : Reader) : Scan Reader := do
  let letters ← Scan.takeWhile fun c => c ≠ ':' ∧ c ≠ ')'
  Scan.present (r.changed? letters (← Scan.next))

/-- Opens a group, or changes the flags. -/
def openingGroup (r : Reader) : Scan Reader := do
  if ← Scan.accept "?P<" then namedGroup r
  else if ← Scan.accept "?<" then namedGroup r
  else if ← Scan.accept "?" then flagGroup r
  else return r.openGroup

/-- The starts of groups that look ahead or behind. -/
def lookarounds : List String := ["?=", "?!", "?<=", "?<!"]

/-- Reads what stands behind an opening parenthesis: the start of a group, or a change of flags up to its end. Groups
that look ahead or behind are refused. -/
def group (r : Reader) : Scan Reader := do
  skipBlanks r.flags
  if lookarounds.any (·.toList.isPrefixOf (← get)) then failure else openingGroup r

/-! ## Patterns -/

/-- A character under flags. -/
def characterUnder (f : Flags) (c : Char) : Piece := .one (f.withCases (.single c)) 0

/-- What an escape stands for as an expression. -/
def Escape.piece (f : Flags) : Escape → Piece
  | .character c => characterUnder f c
  | .class set => .one set 0
  | .assertion a => .holds a

/-- The reader behind a single character, class or assertion whose first character is given. -/
def primitive (r : Reader) (c : Char) : Scan Reader := do
  let f := r.flags
  match c with
  | '\\' => return r.pushPiece ((← escape f).piece f)
  | '.' => if f.unicode then return r.pushPiece (.one (.dot f.dotAll f.crlf) 0) else failure
  | '^' => return r.pushPiece (.holds (if f.multiLine then .lineStart f.crlf else .textStart))
  | '$' => return r.pushPiece (.holds (if f.multiLine then .lineEnd f.crlf else .textEnd))
  | c => return r.pushPiece (characterUnder f c)

/-- The reader behind a repetition of the last expression, which a mark may follow. -/
def repetition (r : Reader) (least : Nat) (most : Option Nat) : Scan Reader := do
  let _ ← Scan.present (r.repeatLast? least most false)
  let marked ← Scan.accept "?"
  Scan.present (r.repeatLast? least most marked)

/-- The reader behind a part of a pattern whose first character is given. -/
def part (r : Reader) (c : Char) : Scan Reader := do
  match c with
  | '(' => group r
  | ')' => Scan.present r.closeGroup?
  | '|' => return r.branch
  | '[' =>
    let p ← bracket r.flags
    return r.pushPiece (.one p.set p.depth)
  | '?' => repetition r 0 (some 1)
  | '*' => repetition r 0 none
  | '+' => repetition r 1 none
  | '\x7b' =>
    let (least, most, marked) ← counts r.flags
    Scan.present (r.repeatLast? least most marked)
  | c => primitive r c

/-- Takes one part of a pattern, or stops at its end. -/
def step (r : Reader) : Scan (Scan.Step Reader Piece) := do
  skipBlanks r.flags
  if ← Scan.atEnd then return .stop (← Scan.present r.finish?)
  else return .again (← part r (← Scan.next))

/-- Reads the rest of a pattern. -/
def Reader.read (r : Reader) : Scan Piece := Scan.iterate step r

/-- How deep a pattern may be nested. -/
def nestLimit : Nat := 250

/-- Reads a pattern. -/
def parse? (pattern : List Char) : Option Regex := do
  let (p, _) ← Reader.start.read pattern
  if p.depth ≤ nestLimit ∧ Automaton.fits p.outline then some p.regex else none

end DependencyEvidence.Regex
