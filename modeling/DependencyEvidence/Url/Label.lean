import DependencyEvidence.Unicode.CombiningClass
import DependencyEvidence.Unicode.Composition
import DependencyEvidence.Unicode.Joining
import DependencyEvidence.Url.Punycode
import DependencyEvidence.Url.Spelling

/-!
# Labels

The parts of a domain between its dots. A label may be written in punycode (`Label.read?`), and it has to be one that
can be told apart from others:

* no character stands in it that delimits hosts, and no mark at its front (`Label.isSound`);
* joiners stand in it only where they show (`Label.joinsAt`);
* if something in the domain runs from right to left, all characters of the label run in one direction
  (`Label.isDirected`).
-/

namespace DependencyEvidence.Url

open Unicode (Direction)

/-- The characters that no host has. -/
def isDelimiter (c : Char) : Bool := "\x00\t\n\r #/:<>?@[\\]^|".toList.contains c

/-- The characters that no domain has. -/
def isForbidden (c : Char) : Bool := isDelimiter c || c.toNat < 0x20 || c == '\x7f' || c == '%'

/-- Whether a character is an ASCII character. -/
def isAscii (c : Char) : Bool := c.toNat < 0x80

namespace Label

/-! ## Punycode -/

/-- What announces punycode. -/
def announcement : List Char := "xn--".toList

/-- The label that a text spells, which may announce punycode. Punycode is for labels that need it, and has to give
what needs no other spelling. -/
def read? (text : List Char) : Option (List Char) :=
  if announcement.isPrefixOf text then
    let code := text.drop announcement.length
    if code.length ≤ 2000 && code.all isAscii then
      (Punycode.decoded? code).filter fun label =>
        !label.all isAscii && label.all isPlain && Unicode.composed label = label
    else none
  else some text

/-! ## Characters -/

/-- Whether a joiner may stand between two texts, the first of which is given backwards. -/
def joinsAt (joiner : Char) (before after : List Char) : Bool :=
  before.head?.any Unicode.isVirama ||
    joiner == '\u200c' && Unicode.reachesJoining Unicode.joinsNextSet before &&
      Unicode.reachesJoining Unicode.joinsPreviousSet after

/-- Whether the joiners of a text stand where they may, behind a text that is given backwards. -/
def joinersAreSound (before : List Char) : List Char → Bool
  | [] => true
  | c :: after => (!(c == '\u200c' || c == '\u200d') || joinsAt c before after) && joinersAreSound (c :: before) after

/-- Whether the characters of a label may stand where they do. A label that is not in ASCII may have 1000 of them. -/
def isSound (label : List Char) : Bool :=
  (label.all isAscii || label.length ≤ 1000) && !label.any isForbidden && !label.head?.any Unicode.marks.mem &&
    joinersAreSound [] label

/-! ## Directions -/

/-- Whether a direction is against that of most scripts. -/
def runsBack (d : Direction) : Bool := d == .rightToLeft || d == .arabicNumber

/-- Whether the characters of a label run in the direction of the first one, which has to have one. Numbers run in
both directions, but not two kinds of them in one label. -/
def isDirected (label : List Char) : Bool :=
  let directions := label.map Direction.ofChar
  let last := (directions.reverse.dropWhile (· == .mark)).headD .mark
  match directions.head? with
  | none => true
  | some .leftToRight => !directions.any runsBack && (last == .leftToRight || last == .number)
  | some .rightToLeft =>
    !directions.contains .leftToRight && (runsBack last || last == .number) &&
      !(directions.contains .number && directions.contains .arabicNumber)
  | some _ => false

end Label

end DependencyEvidence.Url
