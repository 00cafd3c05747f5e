import DependencyEvidence.Text.Runs

/-!
# XML as a sequence of tags

A document is read as the sequence of its tags. Texts, comments, declarations and instructions are checked for their
ends and left out. The reader is a fold over the characters.

* `Xml.Reader.advance` takes one character.
* `Xml.read` gives the events of a document up to its end or to the first fault, and tells which of the two it was.

End tags have to fit the start tags. Elements that are still open at the end of the document are no fault of this
reader, and what stands behind the name of a tag stays unread (`Tag.rest`).
-/

namespace DependencyEvidence.Xml

/-! ## Events -/

/-- The blanks of markup. -/
def isSpace (c : Char) : Bool := c == ' ' || c == '\t' || c == '\r' || c == '\n'

/-- A tag with its name and what stands behind the name. -/
structure Tag where
  name : List Char
  rest : List Char
deriving DecidableEq, Repr

/-- The part of a name behind its namespace. -/
def localName (name : List Char) : String :=
  match name.dropWhile (· ≠ ':') with
  | _ :: more => String.ofList more
  | [] => String.ofList name

/-- The tag that a text between `<` and `>` spells. -/
def Tag.ofText (content : List Char) : Tag := ⟨content.takeWhile (!isSpace ·), content.dropWhile (!isSpace ·)⟩

/-- What a document consists of. -/
inductive Event where
  /-- A start tag. -/
  | opened (tag : Tag)
  /-- A tag that is start and end at once. -/
  | empty (tag : Tag)
  /-- An end tag with its name. -/
  | closed (name : List Char)
deriving DecidableEq, Repr

/-! ## The reader -/

/-- Where the reader stands. Contents are held last character first. -/
inductive Mode where
  | text
  /-- Behind `<`. -/
  | markup
  /-- Behind `<!`. -/
  | declaration
  | comment (content : List Char)
  | characterData (content : List Char)
  /-- In a document type, with the number of inner `<` that are open. -/
  | documentType (content : List Char) (nested : Nat)
  | instruction (content : List Char)
  /-- In a tag, and in a quotation of it if there is a quote. -/
  | tag (content : List Char) (quote : Option Char)
  /-- Behind a fault. -/
  | broken

/-- The events so far, the last one first, the names of the open elements, the innermost one first, and the mode. -/
structure Reader where
  done : List Event
  names : List (List Char)
  mode : Mode

namespace Reader

/-- The reader before the first character. -/
def start : Reader := ⟨[], [], .text⟩

/-- The reader in another mode. -/
def into (r : Reader) (mode : Mode) : Reader := { r with mode }

/-- The reader behind markup that is left out if it is well formed. -/
def leave (r : Reader) (wellFormed : Bool) : Reader := r.into (if wellFormed then .text else .broken)

/-- Whether a text starts with a word in capitals, up to the case of ASCII letters. -/
def startsWith (word : String) (text : List Char) : Bool := word.toList.isPrefixOf (text.map Char.toUpper)

/-- The reader behind an end tag. Blanks may follow its name, which has to be that of the innermost element. -/
def closeElement (r : Reader) (content : List Char) : Reader :=
  let trimmed := (content.reverse.dropWhile isSpace).reverse
  let name := if trimmed.isEmpty then content else trimmed
  match r.names with
  | innermost :: names => if innermost = name then ⟨.closed name :: r.done, names, .text⟩ else r.into .broken
  | [] => r.into .broken

/-- The reader behind a tag, given what stands between `<` and `>`. -/
def takeTag (r : Reader) (content : List Char) : Reader :=
  match content with
  | '/' :: name => r.closeElement name
  | _ =>
    if content.getLast? = some '/' then ⟨.empty (.ofText content.dropLast) :: r.done, r.names, .text⟩
    else
      let tag := Tag.ofText content
      ⟨.opened tag :: r.done, tag.name :: r.names, .text⟩

/-- Takes a character in a tag. -/
def advanceTag (r : Reader) (content : List Char) (quote : Option Char) (c : Char) : Reader :=
  match quote with
  | some q => r.into (.tag (c :: content) (if c = q then none else some q))
  | none =>
    if c = '>' then r.takeTag content.reverse
    else r.into (.tag (c :: content) (if c = '"' ∨ c = '\'' then some c else none))

/-- Takes a character. -/
def advance (r : Reader) (c : Char) : Reader :=
  match r.mode with
  | .text => if c = '<' then r.into .markup else r
  | .markup =>
    if c = '!' then r.into .declaration
    else if c = '?' then r.into (.instruction ['?'])
    else r.advanceTag [] none c
  | .declaration =>
    if c = '-' then r.into (.comment ['-'])
    else if c = '[' then r.into (.characterData ['['])
    else if c = 'D' ∨ c = 'd' then r.into (.documentType [c] 0)
    else r.into .broken
  | .comment content =>
    if c = '>' ∧ 4 ≤ content.length ∧ content.take 2 = ['-', '-'] then
      r.leave (content.reverse.take 2 = ['-', '-'])
    else r.into (.comment (c :: content))
  | .characterData content =>
    if c = '>' ∧ content.take 2 = [']', ']'] then r.leave ("[CDATA[".toList.isPrefixOf content.reverse)
    else r.into (.characterData (c :: content))
  | .documentType content nested =>
    if c = '>' ∧ nested = 0 then
      let text := content.reverse
      r.leave (startsWith "DOCTYPE" text && (text.drop 7).any (!isSpace ·))
    else
      r.into (.documentType (c :: content) (if c = '<' then nested + 1 else if c = '>' then nested - 1 else nested))
  | .instruction content =>
    if c = '>' ∧ content.head? = some '?' then r.leave (1 < content.length)
    else r.into (.instruction (c :: content))
  | .tag content quote => r.advanceTag content quote c
  | .broken => r

end Reader

/-! ## Documents -/

/-- What has been read of a document: its events, and whether they go up to its end. -/
structure Reading where
  events : List Event
  complete : Bool
deriving DecidableEq, Repr

/-- Whether a document may end in a mode. -/
def Mode.isText : Mode → Bool
  | .text => true
  | _ => false

/-- The text of a document without a byte order mark. -/
def withoutMark : List Char → List Char
  | '\ufeff' :: text => text
  | text => text

/-- Reads a document. -/
def read (text : List Char) : Reading :=
  let r := (withoutMark text).foldl Reader.advance .start
  ⟨r.done.reverse, r.mode.isText⟩

end DependencyEvidence.Xml
