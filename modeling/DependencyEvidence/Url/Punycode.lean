import DependencyEvidence.Text.Digits
import DependencyEvidence.Text.Scan

/-!
# Punycode

A text in ASCII for a text of any characters. Its ASCII characters come first, up to the last hyphen. Behind it stand
the others in the order of their code points, each as a number that says how far to count on: through the places of
the text, and with every round to the next code point.

`Punycode.decoded?` reads such a text.
-/

namespace DependencyEvidence.Url.Punycode

/-! ## Numbers -/

/-- The numbers that can be counted to. -/
def limit : Nat := Nat.pow 2 32

/-- The value of a digit: letters of either case, then the digits from zero to nine. -/
def digit? (c : Char) : Option Nat :=
  if c.isDigit then some (26 + (c.toNat - '0'.toNat))
  else if c.isAlpha then some (c.toLower.toNat - 'a'.toNat)
  else none

/-- A digit below this ends a number; others go on. The place counts in steps of 36. -/
def threshold (bias place : Nat) : Nat := max 1 (min 26 (place - bias))

/-- A number that is being read: the place of the next digit, the weight of that place, and the sum so far. -/
structure Number where
  place : Nat
  weight : Nat
  sum : Nat

/-- Takes a digit of a number. -/
def digit (bias : Nat) (n : Number) : Scan (Scan.Step Number Nat) := do
  let d ← StateT.lift (digit? (← Scan.next))
  let sum := n.sum + d * n.weight
  if limit ≤ sum then failure
  let threshold := threshold bias n.place
  if d < threshold then return .stop sum
  let weight := n.weight * (36 - threshold)
  if limit ≤ weight then failure
  return .again ⟨n.place + 36, weight, sum⟩

/-! ## The bias -/

/-- The bias for a number about as large as a given one, on top of the bias that larger ones have brought. -/
def biasOf (bias n : Nat) : Nat := if 455 < n then biasOf (bias + 36) (n / 35) else bias + 36 * n / (n + 38)
termination_by n
decreasing_by omega

/-- The bias after a number, given the length of the text with the new character. -/
def nextBias (isFirst : Bool) (n length : Nat) : Nat :=
  let n := if isFirst then n / 700 else n / 2
  biasOf 0 (n + n / length)

/-! ## Texts -/

/-- A text that is being completed: its characters so far, the code point and the place that counting has reached, and
the bias. -/
structure State where
  text : List Char
  code : Nat
  place : Nat
  bias : Nat

/-- Takes a number and puts its character into the text. -/
def insertion (s : State) : Scan (Scan.Step State (List Char)) := do
  if ← Scan.atEnd then return .stop s.text
  let count ← Scan.iterate (digit s.bias) ⟨36, 1, s.place⟩
  let length := s.text.length + 1
  let code := s.code + count / length
  let place := count % length
  let c ← StateT.lift (Text.charOf? code)
  return .again ⟨s.text.insertIdx place c, code, place + 1, nextBias (s.place = 0) (count - s.place) length⟩

/-- The text that another one stands for. A hyphen in front is no separator. -/
def decoded? (text : List Char) : Option (List Char) :=
  let insertions := (text.reverse.takeWhile (· ≠ '-')).reverse
  let ascii := text.take (text.length - insertions.length - 1)
  if ascii.isEmpty && insertions.length < text.length then none
  else Scan.whole (Scan.iterate insertion ⟨ascii, 0x80, 0, 72⟩) insertions

end DependencyEvidence.Url.Punycode
