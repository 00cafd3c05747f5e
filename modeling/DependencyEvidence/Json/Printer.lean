import DependencyEvidence.Json.Basic

/-!
# Writing JSON

The written form of a value: every item and member on a line of its own, two more blanks of indentation for each
level, and empty containers in one piece. `quoted` escapes as little as it has to.
-/

namespace DependencyEvidence.Json

/-! ## Texts -/

/-- A hexadecimal digit in lower case. -/
def hexDigit (n : Nat) : Char := "0123456789abcdef".toList.getD n '0'

/-- A character as it stands in a text. -/
def escapedChar (c : Char) : List Char :=
  if c = '"' then ['\\', '"']
  else if c = '\\' then ['\\', '\\']
  else if c = '\x08' then ['\\', 'b']
  else if c = '\x0c' then ['\\', 'f']
  else if c = '\n' then ['\\', 'n']
  else if c = '\r' then ['\\', 'r']
  else if c = '\t' then ['\\', 't']
  else if c.toNat < 0x20 then ['\\', 'u', '0', '0', hexDigit (c.toNat / 16), hexDigit (c.toNat % 16)]
  else [c]

/-- A text in quotes. A text without characters of its own is written empty. -/
def quoted (content : Option String) : List Char := '"' :: (content.getD "").toList.flatMap escapedChar ++ ['"']

/-! ## Values -/

/-- The start of a line at a level of nesting. -/
def newLine (level : Nat) : List Char := '\n' :: List.replicate (2 * level) ' '

mutual

/-- A value at a level of nesting. -/
def written (level : Nat) : Json → List Char
  | .null => "null".toList
  | .bool b => if b then "true".toList else "false".toList
  | .number digits => digits.toList
  | .text content => quoted content
  | .array [] => "[]".toList
  | .array (v :: rest) => '[' :: newLine (level + 1) ++ written (level + 1) v ++ writtenItems level rest
  | .object [] => "\x7b\x7d".toList
  | .object ((name, v) :: rest) =>
    '\x7b' :: newLine (level + 1) ++ quoted name ++ ": ".toList ++ written (level + 1) v ++ writtenMembers level rest

/-- The further items of an array, and its end. -/
def writtenItems (level : Nat) : List Json → List Char
  | [] => newLine level ++ [']']
  | v :: rest => ',' :: newLine (level + 1) ++ written (level + 1) v ++ writtenItems level rest

/-- The further members of an object, and its end. -/
def writtenMembers (level : Nat) : List (Option String × Json) → List Char
  | [] => newLine level ++ ['\x7d']
  | (name, v) :: rest =>
    ',' :: newLine (level + 1) ++ quoted name ++ ": ".toList ++ written (level + 1) v ++ writtenMembers level rest

end

/-- A value as a document. -/
def render (v : Json) : String := String.ofList (written 0 v)

end DependencyEvidence.Json
