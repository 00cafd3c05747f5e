import DependencyEvidence.Text.Bytes
import DependencyEvidence.Text.Runs
import DependencyEvidence.Text.Scan
import DependencyEvidence.Url.Domain

/-!
# Hosts

The hosts of URLs. Where a scheme knows about hosts, a host is a domain, an address of four numbers, or an address in
brackets (`host?`); elsewhere almost any text will do (`isPlainHost`).
-/

namespace DependencyEvidence.Url

/-! ## Addresses of four numbers -/

/-- The number that digits of a base spell; no digits spell zero. -/
def numberIn? (base : Nat) (digits : List Char) : Option Nat :=
  if digits.all (Text.isDigitOf base) then some (Text.numberOf base digits) else none

/-- A number of an address, in base ten, or after a zero in base eight, or after `0x` in base sixteen. -/
def addressNumber? : List Char → Option Nat
  | [] => none
  | '0' :: 'x' :: digits => numberIn? 16 digits
  | '0' :: 'X' :: digits => numberIn? 16 digits
  | '0' :: d :: digits => numberIn? 8 (d :: digits)
  | digits => numberIn? 10 digits

/-- The parts of a domain, without the empty one behind a final dot. -/
def labels (domain : List Char) : List (List Char) :=
  let parts := Text.pieces '.' domain
  if parts.getLast? = some [] then parts.dropLast else parts

/-- Whether a domain has to be an address, because its last part is a number. -/
def endsInNumber (domain : List Char) : Bool :=
  match (labels domain).getLast? with
  | some last => !last.isEmpty && (last.all Char.isDigit || (addressNumber? last).isSome)
  | none => false

/-- Whether a domain is an address: at most four numbers, of which the last one fills what the others leave. -/
def isAddress (domain : List Char) : Bool :=
  match (labels domain).mapM addressNumber? with
  | none => false
  | some numbers =>
    match numbers.getLast? with
    | none => false
    | some last =>
      numbers.length ≤ 4 && numbers.dropLast.all (· < 256) && last < Nat.pow 256 (5 - numbers.length)

/-! ## Addresses in brackets -/

/-- Takes a decimal number below 256 without superfluous zeros. -/
def byteNumber : Scan Unit := do
  let digits ← Scan.takeWhile1 Char.isDigit
  match digits with
  | '0' :: _ :: _ => failure
  | _ => if Text.numberOf 10 digits < 256 then pure () else failure

/-- Takes four numbers with dots between them, up to the end. -/
def dottedEnd : Scan Unit := do
  byteNumber
  Scan.character '.'
  byteNumber
  Scan.character '.'
  byteNumber
  Scan.character '.'
  byteNumber
  if ← Scan.atEnd then pure () else failure

/-- The part of an address in brackets that has been read: how many of its eight groups, and whether a gap was among
them. -/
structure Groups where
  count : Nat
  hasGap : Bool

/-- Takes one more group with the colon behind it, the gap, or the four numbers that may stand for the last two. -/
def group (g : Groups) : Scan (Scan.Step Groups Groups) := do
  if ← Scan.atEnd then return .stop g
  if g.count = 8 then failure
  if ← Scan.accept ":" then
    if g.hasGap then failure else return .again ⟨g.count + 1, true⟩
  let numbers : Scan (Scan.Step Groups Groups) := do
    dottedEnd
    if g.count ≤ 6 then return .stop { g with count := g.count + 2 } else failure
  let digits : Scan (Scan.Step Groups Groups) := do
    let digits ← Scan.takeWhile1 (Text.isDigitOf 16)
    if 4 < digits.length then failure
    if !(← Scan.atEnd) then
      Scan.character ':'
      if ← Scan.atEnd then failure
    return .again { g with count := g.count + 1 }
  numbers <|> digits

/-- Whether a text is an address in brackets, without them. -/
def isLongAddress (text : List Char) : Bool :=
  let groups : Scan Groups := do
    if ← Scan.accept "::" then Scan.iterate group ⟨1, true⟩
    else if (← Scan.peek) = some ':' then failure
    else Scan.iterate group ⟨0, false⟩
  match Scan.whole groups text with
  | some g => g.hasGap || g.count = 8
  | none => false

/-! ## Hosts -/

/-- Whether a text is an address in brackets. -/
def isBracketed (text : List Char) : Bool :=
  text.head? = some '[' && text.getLast? = some ']' && 2 ≤ text.length && isLongAddress (text.drop 1).dropLast

/-- The host that a text spells. A domain may be percent-encoded. -/
def host? (text : List Char) : Option (List Char) :=
  if text.head? = some '[' then if isBracketed text then some text else none
  else do
    let domain ← domain? (← String.fromUTF8? ⟨(Text.percentDecoded text).toArray⟩).toList
    if domain.isEmpty || (endsInNumber domain && !isAddress domain) then none else some domain

/-- Whether a text is a host for a scheme that knows nothing about hosts. -/
def isPlainHost (text : List Char) : Bool :=
  if text.head? = some '[' then isBracketed text else !text.any isDelimiter

end DependencyEvidence.Url
