import DependencyEvidence.Text.Digits
import DependencyEvidence.Text.Scan

/-!
# Texts, blanks and keys of TOML

The four kinds of quoted texts, and what may stand between the elements of a document.
-/

namespace DependencyEvidence.Toml

/-! ## Blanks and comments -/

/-- The blanks within a line. -/
def isBlank (c : Char) : Bool := c == ' ' || c == '\t'

/-- Drops the blanks within a line. -/
def skipBlanks : Scan Unit := Scan.skipWhile isBlank

/-- Whether a character may stand in texts and comments: no control character but the tabulator. -/
def isPlain (c : Char) : Bool := c == '\t' || (0x20 ≤ c.toNat && c.toNat ≠ 0x7F)

/-- Takes the end of a line, if it comes next. -/
def acceptLineEnd : Scan Bool := do
  if ← Scan.accept "\n" then return true else Scan.accept "\r\n"

/-- Takes the end of a line, or is at the end of the document. -/
def lineEnd : Scan Unit := do
  if ← Scan.atEnd then return
  if ← acceptLineEnd then return
  failure

/-- Takes a comment up to the end of its line, if one comes next. -/
def comment : Scan Unit := do
  if ← Scan.accept "#" then Scan.skipWhile isPlain

/-- Takes what may stand behind an element on its line. -/
def restOfLine : Scan Unit := do
  skipBlanks
  comment
  lineEnd

/-- Drops blanks, ends of lines and comments. -/
def skipLines : Scan Unit :=
  Scan.iterate (fun () => do
    match ← Scan.peek with
    | some '#' =>
      comment
      if ← acceptLineEnd then return .again () else failure
    | some c =>
      if isBlank c then
        skipBlanks
        return .again ()
      else if ← acceptLineEnd then return .again ()
      else return .stop ()
    | none => return .stop ()) ()

/-! ## Escapes -/

/-- Reads the character with a code of so many hexadecimal digits. -/
def codePoint (digits : Nat) : Scan Char := do
  let code ← (List.range digits).mapM fun _ => Scan.satisfy (Text.isDigitOf 16)
  match Text.charOf? (Text.numberOf 16 code) with
  | some c => pure c
  | none => failure

/-- Reads what follows a backslash. -/
def escaped : Scan Char := do
  match ← Scan.next with
  | '"' => return '"'
  | '\\' => return '\\'
  | 'b' => return '\x08'
  | 'f' => return '\x0c'
  | 'n' => return '\n'
  | 'r' => return '\r'
  | 't' => return '\t'
  | 'u' => codePoint 4
  | 'U' => codePoint 8
  | _ => failure

/-! ## Texts on one line -/

/-- Reads a text with escapes behind its opening quote. -/
def quotedText : Scan (List Char) :=
  Scan.iterate (fun (done : List Char) => do
    let plain ← Scan.takeWhile fun c => isPlain c && c ≠ '"' && c ≠ '\\'
    match ← Scan.next with
    | '"' => return .stop (done ++ plain)
    | '\\' => return .again (done ++ plain ++ [← escaped])
    | _ => failure) []

/-- Reads a text without escapes behind its opening quote. -/
def literalText : Scan (List Char) := do
  let plain ← Scan.takeWhile fun c => isPlain c && c ≠ '\''
  Scan.character '\''
  return plain

/-! ## Texts on several lines -/

/-- Takes a backslash with the end of its line and all blank lines that follow, if they come next. -/
def acceptContinuation : Scan Bool := fun text =>
  let start : Scan Bool := do
    if ← Scan.accept "\\" then
      skipBlanks
      acceptLineEnd
    else return false
  let more : Scan Unit := Scan.iterate (fun () => do
    match ← Scan.peek with
    | some c =>
      if isBlank c then
        skipBlanks
        return .again ()
      else if ← acceptLineEnd then return .again ()
      else return .stop ()
    | none => return .stop ()) ()
  match start text with
  | some (true, rest) => (more rest).map fun r => (true, r.2)
  | _ => some (false, text)

/-- Reads a text between triple quotes behind the opening ones. Up to two quotes may stand before the closing ones. -/
def longText (quote : Char) (hasEscapes : Bool) : Scan (List Char) := do
  let _ ← acceptLineEnd
  Scan.iterate (fun (done : List Char) => do
    let plain ← Scan.takeWhile fun c => isPlain c && c ≠ quote && (!hasEscapes || c ≠ '\\')
    let done := done ++ plain
    if ← acceptLineEnd then return .again (done ++ ['\n'])
    if hasEscapes && (← acceptContinuation) then return .again done
    match ← Scan.next with
    | '\\' => if hasEscapes then return .again (done ++ [← escaped]) else failure
    | c =>
      if c ≠ quote then failure
      let more ← Scan.takeWhile (· = quote)
      if more.length < 2 then return .again (done ++ c :: more)
      else if 4 < more.length then failure
      else return .stop (done ++ more.drop 2)) []

/-- Reads a text of any kind. -/
def anyText : Scan (List Char) := do
  if ← Scan.accept "\"\"\"" then longText '"' true
  else if ← Scan.accept "\"" then quotedText
  else if ← Scan.accept "'''" then longText '\'' false
  else if ← Scan.accept "'" then literalText
  else failure

/-! ## Keys -/

/-- The characters of keys without quotes. -/
def isKeyCharacter (c : Char) : Bool := c.isAlphanum || c == '-' || c == '_'

/-- Reads one part of a key. -/
def simpleKey : Scan String := do
  let text ← if ← Scan.accept "\"" then quotedText
    else if ← Scan.accept "'" then literalText
    else Scan.takeWhile1 isKeyCharacter
  return String.ofList text

/-- The bound below which the parts of a key and the nesting of values must stay. -/
def depthLimit : Nat := 80

/-- Reads a key: parts with dots between them, given as the path and the last part. -/
def key : Scan (List String × String) :=
  Scan.iterate (fun (path : List String) => do
    skipBlanks
    let part ← simpleKey
    skipBlanks
    if ← Scan.accept "." then return .again (path ++ [part])
    else if depthLimit ≤ path.length + 1 then failure
    else return .stop (path, part)) []

end DependencyEvidence.Toml
