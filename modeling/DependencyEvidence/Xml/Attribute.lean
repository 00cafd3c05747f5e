import DependencyEvidence.Text.Digits
import DependencyEvidence.Text.Scan
import DependencyEvidence.Xml.Event

/-!
# Attributes

The attributes that stand behind the name of a tag. Names may have a namespace, which does not count, so that one
attribute can hide another; `Attributes.get?` gives the last one.

* `unescape?` replaces references to characters.
* `attributes?` reads all attributes of a tag.
-/

namespace DependencyEvidence.Xml

/-! ## References -/

/-- The characters with names. -/
def entities : List (String × Char) := [("lt", '<'), ("gt", '>'), ("amp", '&'), ("apos", '\''), ("quot", '"')]

/-- The character with a number in a base. -/
def charOfNumber? (base : Nat) (digits : List Char) : Option Char :=
  let n := Text.numberOf base digits
  if digits.isEmpty || !digits.all (Text.isDigitOf base) || n = 0 then none else Text.charOf? n

/-- The character that a reference between `&` and `;` stands for. -/
def resolve? : List Char → Option Char
  | '#' :: 'x' :: digits => charOfNumber? 16 digits
  | '#' :: digits => charOfNumber? 10 digits
  | name => entities.lookup (String.ofList name)

/-- Replaces the references of a text. A reference that is being read is held last character first. -/
def unescapeFrom? : Option (List Char) → List Char → Option (List Char)
  | none, [] => some []
  | some _, [] => none
  | none, c :: rest => if c = '&' then unescapeFrom? (some []) rest else (unescapeFrom? none rest).map (c :: ·)
  | some name, c :: rest =>
    if c = ';' then do (← resolve? name.reverse) :: (← unescapeFrom? none rest)
    else if c = '&' then none
    else unescapeFrom? (some (c :: name)) rest

/-- Replaces the references of a text. -/
def unescape? (text : List Char) : Option (List Char) := unescapeFrom? none text

/-! ## Attributes -/

/-- The attributes of a tag, by their names without namespaces, in order. -/
abbrev Attributes := List (String × String)

/-- The value of the last attribute with a name. -/
def Attributes.get? (a : Attributes) (name : String) : Option String := a.reverse.lookup name

/-- Reads a name, the equals sign, and a value in quotes, whose references stay. -/
def nameAndValue : Scan (List Char × List Char) := do
  let first ← Scan.next
  let more ← Scan.takeWhile fun c => c ≠ '=' ∧ !isSpace c
  Scan.skipWhile isSpace
  Scan.character '='
  Scan.skipWhile isSpace
  let quote ← Scan.satisfy fun c => c = '"' ∨ c = '\''
  let value ← Scan.takeWhile (· ≠ quote)
  Scan.character quote
  return (first :: more, value)

/-- Reads attributes up to the end of the text. No two of them may have the same name with the namespace. -/
def attributesOf : Scan (List (List Char × List Char)) :=
  Scan.iterate (fun done => do
    Scan.skipWhile isSpace
    if ← Scan.atEnd then return .stop done.reverse
    let a ← nameAndValue
    if (done.map (·.1)).contains a.1 then failure else return .again (a :: done)) []

/-- The attributes of a tag. -/
def Tag.attributes? (t : Tag) : Option Attributes := do
  let (attributes, _) ← attributesOf t.rest
  attributes.mapM fun a => (unescape? a.2).map fun value => (localName a.1, String.ofList value)

end DependencyEvidence.Xml
