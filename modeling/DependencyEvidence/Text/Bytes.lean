import DependencyEvidence.Text.Digits

/-!
# Bytes and text

Texts whose bytes are spelled by percent signs, and texts from bytes that need not be well-formed.

* `percentDecoded` gives the bytes of a text in which `%` and two hexadecimal digits stand for a byte.
* `readableText` reads bytes as UTF-8 and puts a replacement character in place of what is no character.
* `text?` reads bytes as UTF-8 if all of them are characters.
-/

namespace DependencyEvidence.Text

/-! ## Percent signs -/

/-- The bytes of a text. A percent sign that no two digits follow stands for itself. -/
def percentDecoded : List Char → List UInt8
  | [] => []
  | '%' :: a :: b :: rest =>
    match digitValue? a, digitValue? b with
    | some x, some y => UInt8.ofNat (16 * x + y) :: percentDecoded rest
    | _, _ => String.utf8EncodeChar '%' ++ percentDecoded (a :: b :: rest)
  | c :: rest => String.utf8EncodeChar c ++ percentDecoded rest

/-! ## Ill-formed bytes -/

/-- What stands for bytes that are no character. -/
def replacementChar : Char := '\ufffd'

/-- A character of which some bytes have been read: the number that they spell, and the bounds of those to come. -/
structure Unfinished where
  value : Nat
  bounds : List (Nat × Nat)

/-- What a first byte says about its character. -/
def firstByte? (b : Nat) : Option Unfinished :=
  let any := (0x80, 0xBF)
  if b < 0x80 then some ⟨b, []⟩
  else if b < 0xC2 then none
  else if b < 0xE0 then some ⟨b - 0xC0, [any]⟩
  else if b < 0xF0 then
    some ⟨b - 0xE0, [if b = 0xE0 then (0xA0, 0xBF) else if b = 0xED then (0x80, 0x9F) else any, any]⟩
  else if b < 0xF5 then
    some ⟨b - 0xF0, [if b = 0xF0 then (0x90, 0xBF) else if b = 0xF4 then (0x80, 0x8F) else any, any, any]⟩
  else none

/-- The characters that are certain after a first byte, and what is unfinished. -/
def startByte (b : Nat) : List Char × Option Unfinished :=
  match firstByte? b with
  | none => ([replacementChar], none)
  | some ⟨n, []⟩ => ([(charOf? n).getD replacementChar], none)
  | some u => ([], some u)

/-- The characters that are certain after the next byte, and what is unfinished. A byte that does not continue the
unfinished character starts another one. -/
def nextByte : Option Unfinished → Nat → List Char × Option Unfinished
  | some ⟨n, (low, high) :: more⟩, b =>
    if low ≤ b ∧ b ≤ high then
      let value := 64 * n + (b - 0x80)
      if more.isEmpty then ([(charOf? value).getD replacementChar], none) else ([], some ⟨value, more⟩)
    else
      let (certain, unfinished) := startByte b
      (replacementChar :: certain, unfinished)
  | _, b => startByte b

/-- The characters of bytes that follow what is unfinished. -/
def readableFrom (unfinished : Option Unfinished) : List UInt8 → List Char
  | [] => if unfinished.isSome then [replacementChar] else []
  | b :: rest =>
    let (certain, unfinished) := nextByte unfinished b.toNat
    certain ++ readableFrom unfinished rest

/-- Bytes as text. Every longest start of a character that is not finished, and every byte that starts none, becomes
one replacement character. -/
def readableText (bytes : List UInt8) : List Char := readableFrom none bytes

/-- The text that bytes spell, if they spell one. -/
def text? (bytes : List UInt8) : Option String :=
  let text := readableText bytes
  if text.flatMap String.utf8EncodeChar = bytes then some (String.ofList text) else none

end DependencyEvidence.Text
