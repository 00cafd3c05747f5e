import DependencyEvidence.Regex.Basic
import DependencyEvidence.Regex.Flags
import DependencyEvidence.Text.Digits

/-!
# Escapes of patterns

What a backslash and the characters behind it stand for: a character, a class, or an assertion. Classes are given as
they are under the flags of their place.
-/

namespace DependencyEvidence.Regex

/-- What an escape stands for. -/
inductive Escape where
  | character (c : Char)
  | class (set : CharClass)
  | assertion (a : Assertion)

/-! ## Classes under flags -/

/-- A class with what differs from it in case only, if case does not count. -/
def Flags.withCases (f : Flags) (set : CharClass) : CharClass :=
  if !f.ignoreCase then set else if f.unicode then .anyCase set else .anyAsciiCase set

/-- A class or its complement. Without characters of all scripts there are no complements. -/
def Flags.withSign? (f : Flags) (negated : Bool) (set : CharClass) : Option CharClass :=
  if !negated then some set else if f.unicode then some (.complement set) else none

/-- What stands before and after the first place of a word in a text, if it is there. -/
def splitAt? (word : List Char) : List Char → Option (List Char × List Char)
  | [] => none
  | c :: rest =>
    if word.isPrefixOf (c :: rest) then some ([], (c :: rest).drop word.length)
    else (splitAt? word rest).map fun (before, after) => (c :: before, after)

/-- The set of a property, and whether its complement is meant. A value may follow `=` or `:`, or `!=` for the
complement. -/
def propertySet? (name : List Char) : Option (Bool × Unicode.CodeSet) :=
  let unequal := splitAt? ['!', '='] name
  match unequal.or ((splitAt? [':'] name).or (splitAt? ['='] name)) with
  | some (property, value) => (Unicode.valuedSet? property value).map (unequal.isSome, ·)
  | none => (Unicode.namedSet? name).map (false, ·)

/-- The class of a property or of its complement. -/
def Flags.property? (f : Flags) (negated : Bool) (name : List Char) : Option CharClass := do
  guard f.unicode
  let (opposite, set) ← propertySet? name
  f.withSign? (negated != opposite) (f.withCases (.table set))

/-! ## Characters by number -/

/-- The character with the code that the digits spell. -/
def charOfCode (digits : List Char) : Scan Char :=
  match digits, Text.charOf? (Text.numberOf 16 digits) with
  | _ :: _, some c => pure c
  | _, _ => failure

/-- Reads a code in braces behind the opening one. -/
def bracedCode (f : Flags) : Scan Char := do
  skipBlanks f
  let digits ← takeSpaced f (Text.isDigitOf 16)
  Scan.character '\x7d'
  charOfCode digits

/-- Reads a code in a fixed number of digits. A code of two digits does not stand for a character beyond ASCII where
classes hold bytes. -/
def fixedCode (f : Flags) (width : Nat) : Scan Char := do
  let first ← Scan.satisfy (Text.isDigitOf 16)
  let more ← (List.range (width - 1)).mapM fun _ => do
    skipBlanks f
    Scan.satisfy (Text.isDigitOf 16)
  let c ← charOfCode (first :: more)
  if width = 2 ∧ !f.unicode ∧ 0x7F < c.toNat then failure else pure c

/-- Reads a code behind `\x`, `\u` or `\U`. -/
def code (f : Flags) (width : Nat) : Scan Char := do
  skipBlanks f
  if ← Scan.accept "\x7b" then bracedCode f else fixedCode f width

/-! ## Word edges -/

/-- The edges by name. -/
def edgeNames : List (String × WordEdge) :=
  [("start", .start), ("end", .finish), ("start-half", .startHalf), ("end-half", .finishHalf)]

/-- Whether a character may stand in the name of an edge. -/
def isEdgeCharacter (c : Char) : Bool := c.isAlpha || c == '-'

/-- Reads the name of an edge and the brace behind it. -/
def namedEdge (f : Flags) : Scan WordEdge := do
  let name ← takeSpaced f isEdgeCharacter
  Scan.character '\x7d'
  Scan.present (edgeNames.lookup (String.ofList name))

/-- Reads an edge behind `\b`, which may be named in braces. Braces that hold no name are left alone. -/
def edge (f : Flags) : Scan WordEdge := fun text =>
  match text with
  | '\x7b' :: rest => do
    let (_, rest) ← skipBlanks f rest
    let c ← rest.head?
    if isEdgeCharacter c then namedEdge f rest else some (.boundary, text)
  | _ => some (.boundary, text)

/-! ## Escapes -/

/-- The characters that mean something in patterns. -/
def metaCharacters : List Char := "\\.+*?()|[]\x7b\x7d^$#&-~".toList

/-- Whether a backslash may stand before a character for the character itself. -/
def isEscapable (c : Char) : Bool :=
  metaCharacters.contains c || (c.toNat < 0x80 && !c.isAlphanum && c != '<' && c != '>')

/-- Reads the name of a property: in braces, or a single character. -/
def propertyName (f : Flags) : Scan (List Char) := do
  if ← Scan.accept "\x7b" then
    skipBlanks f
    let name ← takeSpaced f (· ≠ '\x7d')
    Scan.character '\x7d'
    return name
  else return [← Scan.satisfy (· ≠ '\\')]

/-- Reads a property behind `\p` or `\P`. -/
def property (f : Flags) (negated : Bool) : Scan CharClass := do
  skipBlanks f
  Scan.present (f.property? negated (← propertyName f))

/-- The class of `\d`, `\s` or `\w`, or of its complement in capitals. -/
def shorthand (f : Flags) (letter : Char) : Scan CharClass :=
  let set := match letter.toLower with
    | 'd' => CharClass.digits f.unicode
    | 's' => .blanks f.unicode
    | _ => .words f.unicode
  Scan.present (f.withSign? letter.isUpper set)

/-- The edge of a word as an escape. -/
def Flags.wordEdge (f : Flags) (e : WordEdge) : Escape := .assertion (.wordEdge e f.unicode)

/-- Reads an escape whose first character behind the backslash is given. -/
def escapeOf (f : Flags) (c : Char) : Scan Escape := do
  match c with
  | 'x' => return .character (← code f 2)
  | 'u' => return .character (← code f 4)
  | 'U' => return .character (← code f 8)
  | 'p' => return .class (← property f false)
  | 'P' => return .class (← property f true)
  | 'd' | 's' | 'w' | 'D' | 'S' | 'W' => return .class (← shorthand f c)
  | 'a' => return .character '\x07'
  | 'f' => return .character '\x0c'
  | 't' => return .character '\t'
  | 'n' => return .character '\n'
  | 'r' => return .character '\r'
  | 'v' => return .character '\x0b'
  | 'A' => return .assertion .textStart
  | 'z' => return .assertion .textEnd
  | 'b' => return f.wordEdge (← edge f)
  | 'B' => return f.wordEdge .noBoundary
  | '<' => return f.wordEdge .start
  | '>' => return f.wordEdge .finish
  | c => if isEscapable c then return .character c else failure

/-- Reads what follows a backslash. -/
def escape (f : Flags) : Scan Escape := do escapeOf f (← Scan.next)

end DependencyEvidence.Regex
