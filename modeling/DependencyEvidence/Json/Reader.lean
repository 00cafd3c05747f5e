import DependencyEvidence.Json.Basic
import DependencyEvidence.Text.Digits

/-!
# Reading JSON

A document is read in two passes, each of which is a fold with a small step function.

* `Json.Lexer.advance` takes one character and `Json.tokens?` gives the tokens of a text.
* `Json.State.step` takes one token. The containers that are open are held in a list of frames, so that nesting has
  no limit.
* `Json.parse?` reads a whole document.
-/

namespace DependencyEvidence.Json

/-! ## Tokens -/

/-- A lexical element. -/
inductive Token where
  | beginArray
  | endArray
  | beginObject
  | endObject
  | colon
  | comma
  /-- A literal name or a number. -/
  | word (value : Json)
  | text (content : Option String)

/-- Joins the halves of surrogate pairs that stand beside each other. There is no result if a half stands alone. -/
def joinSurrogates : List Nat → Option (List Char)
  | [] => some []
  | n :: rest =>
    if 0xD800 ≤ n ∧ n < 0xDC00 then
      match rest with
      | m :: rest =>
        if 0xDC00 ≤ m ∧ m < 0xE000 then do
          (← Text.charOf? (0x10000 + 0x400 * (n - 0xD800) + (m - 0xDC00))) :: (← joinSurrogates rest)
        else none
      | [] => none
    else do (← Text.charOf? n) :: (← joinSurrogates rest)

/-- Whether the digits of a number are well formed after the sign: no leading zeros, then perhaps a fraction, then
perhaps an exponent. -/
def isUnsignedNumber (text : List Char) : Bool :=
  let digits := text.takeWhile Char.isDigit
  let afterDigits := text.dropWhile Char.isDigit
  let whole := match digits with
    | [] => false
    | '0' :: more => more.isEmpty
    | _ => true
  let isExponent : List Char → Bool := fun t => match t with
    | [] => true
    | e :: t =>
      let t := match t with
        | '+' :: t => t
        | '-' :: t => t
        | t => t
      (e == 'e' || e == 'E') && !t.isEmpty && t.all Char.isDigit
  whole && match afterDigits with
    | '.' :: fraction =>
      !(fraction.takeWhile Char.isDigit).isEmpty && isExponent (fraction.dropWhile Char.isDigit)
    | rest => isExponent rest

/-- The value of a word. -/
def wordValue? (letters : List Char) : Option Json :=
  if letters = "null".toList then some .null
  else if letters = "true".toList then some (.bool true)
  else if letters = "false".toList then some (.bool false)
  else
    let unsigned := match letters with
      | '-' :: rest => rest
      | _ => letters
    if isUnsignedNumber unsigned then some (.number (String.ofList letters)) else none

/-! ## From characters to tokens -/

/-- Where the lexer stands. Texts and words are held last character first. -/
inductive Mode where
  | between
  | word (letters : List Char)
  | text (units : List Nat)
  /-- After a backslash in a text. -/
  | escape (units : List Nat)
  /-- In the four digits of an escape, with the number of those that are still to come. -/
  | hex (units : List Nat) (left value : Nat)

/-- The tokens so far, the last one first, and the mode. -/
structure Lexer where
  done : List Token
  mode : Mode

namespace Lexer

/-- The lexer before the first character. -/
def start : Lexer := ⟨[], .between⟩

/-- The blanks between tokens. -/
def isBlank (c : Char) : Bool := c == ' ' || c == '\n' || c == '\t' || c == '\r'

/-- The characters of literal names and numbers. -/
def isWordCharacter (c : Char) : Bool := c.isAlphanum || c == '+' || c == '-' || c == '.'

/-- Takes a character between tokens. -/
def advanceBetween (done : List Token) (c : Char) : Option Lexer :=
  if isBlank c then some ⟨done, .between⟩
  else if isWordCharacter c then some ⟨done, .word [c]⟩
  else match c with
    | '[' => some ⟨.beginArray :: done, .between⟩
    | ']' => some ⟨.endArray :: done, .between⟩
    | '\x7b' => some ⟨.beginObject :: done, .between⟩
    | '\x7d' => some ⟨.endObject :: done, .between⟩
    | ':' => some ⟨.colon :: done, .between⟩
    | ',' => some ⟨.comma :: done, .between⟩
    | '"' => some ⟨done, .text []⟩
    | _ => none

/-- The character that a letter after a backslash stands for. -/
def escaped? : Char → Option Char
  | '"' => some '"'
  | '\\' => some '\\'
  | '/' => some '/'
  | 'b' => some '\x08'
  | 'f' => some '\x0c'
  | 'n' => some '\n'
  | 'r' => some '\r'
  | 't' => some '\t'
  | _ => none

/-- Takes a character. -/
def advance (l : Lexer) (c : Char) : Option Lexer :=
  match l.mode with
  | .between => advanceBetween l.done c
  | .word letters =>
    if isWordCharacter c then some ⟨l.done, .word (c :: letters)⟩
    else do advanceBetween (.word (← wordValue? letters.reverse) :: l.done) c
  | .text units =>
    if c = '"' then some ⟨.text ((joinSurrogates units.reverse).map String.ofList) :: l.done, .between⟩
    else if c = '\\' then some ⟨l.done, .escape units⟩
    else if c.toNat < 0x20 then none
    else some ⟨l.done, .text (c.toNat :: units)⟩
  | .escape units =>
    if c = 'u' then some ⟨l.done, .hex units 4 0⟩
    else (escaped? c).map fun e => ⟨l.done, .text (e.toNat :: units)⟩
  | .hex units left value => do
    let value := 16 * value + (← Text.digitValue? c)
    some ⟨l.done, if left ≤ 1 then .text (value :: units) else .hex units (left - 1) value⟩

/-- The tokens at the end of the text. -/
def finish? (l : Lexer) : Option (List Token) :=
  match l.mode with
  | .between => some l.done.reverse
  | .word letters => do some (.word (← wordValue? letters.reverse) :: l.done).reverse
  | _ => none

end Lexer

/-- The tokens of a text. -/
def tokens? (text : List Char) : Option (List Token) := do (← text.foldlM Lexer.advance .start).finish?

/-! ## From tokens to values -/

/-- An open container: what it holds so far, the last one first. An object also holds the name of the member whose
value is being read. -/
inductive Frame where
  | array (done : List Json)
  | object (done : List (Option String × Json)) (name : Option String)

/-- What has to follow, with the open containers, the innermost one first. -/
inductive State where
  /-- A value. -/
  | value (frames : List Frame)
  /-- The first item of an array, or its end. -/
  | firstItem (frames : List Frame)
  /-- The first name of an object, or its end. -/
  | firstName (frames : List Frame)
  /-- A further name of an object. -/
  | nextName (done : List (Option String × Json)) (frames : List Frame)
  /-- The colon after a name. -/
  | colon (done : List (Option String × Json)) (name : Option String) (frames : List Frame)
  /-- What follows a value: a comma, the end of the container, or the end of the document. -/
  | after (value : Json) (frames : List Frame)

namespace State

/-- Takes a token where a value has to stand. -/
def stepValue (frames : List Frame) : Token → Option State
  | .beginArray => some (.firstItem frames)
  | .beginObject => some (.firstName frames)
  | .word v => some (.after v frames)
  | .text content => some (.after (.text content) frames)
  | _ => none

/-- Takes a token. -/
def step : State → Token → Option State
  | .value frames, t => stepValue frames t
  | .firstItem frames, .endArray => some (.after (.array []) frames)
  | .firstItem frames, t => stepValue (.array [] :: frames) t
  | .firstName frames, .endObject => some (.after (.object []) frames)
  | .firstName frames, .text name => some (.colon [] name frames)
  | .nextName done frames, .text name => some (.colon done name frames)
  | .colon done name frames, .colon => some (.value (.object done name :: frames))
  | .after v (.array done :: frames), .comma => some (.value (.array (v :: done) :: frames))
  | .after v (.array done :: frames), .endArray => some (.after (.array (v :: done).reverse) frames)
  | .after v (.object done name :: frames), .comma => some (.nextName ((name, v) :: done) frames)
  | .after v (.object done name :: frames), .endObject => some (.after (.object ((name, v) :: done).reverse) frames)
  | _, _ => none

/-- The value at the end of the document. -/
def finish? : State → Option Json
  | .after v [] => some v
  | _ => none

end State

/-- The value that tokens spell. -/
def ofTokens? (tokens : List Token) : Option Json := do (← tokens.foldlM State.step (.value [])).finish?

/-- Reads a document. -/
def parse? (text : String) : Option Json := do ofTokens? (← tokens? text.toList)

end DependencyEvidence.Json
