import DependencyEvidence.Text.Digits
import DependencyEvidence.Text.Scan
import DependencyEvidence.Toml.Basic

/-!
# Numbers and times of TOML

Integers in four bases, decimal fractions, and dates and times. Only integers have values; fractions and times are
checked for their form, and a fraction for its size.
-/

namespace DependencyEvidence.Toml

/-! ## Digits -/

/-- Whether digits are grouped well: an underscore stands only between two digits. -/
def isGrouped : List Char → Bool
  | [] => false
  | ['_'] => false
  | [_] => true
  | '_' :: '_' :: _ => false
  | '_' :: _ => false
  | _ :: '_' :: d :: rest => d ≠ '_' && isGrouped (d :: rest)
  | _ :: rest => isGrouped rest

/-- Reads digits of a base, which may be grouped by underscores. -/
def groupedDigits (base : Nat) : Scan (List Char) := do
  let digits ← Scan.takeWhile fun c => Text.isDigitOf base c || c == '_'
  if isGrouped digits then return digits.filter (· ≠ '_') else failure

/-- Reads decimal digits that start with no superfluous zero. -/
def wholeDigits : Scan (List Char) := do
  let digits ← groupedDigits 10
  match digits with
  | '0' :: _ :: _ => failure
  | _ => return digits

/-- Takes a sign, and tells whether it is a minus. -/
def sign : Scan Bool := do
  if ← Scan.accept "-" then return true
  let _ ← Scan.accept "+"
  return false

/-! ## Integers -/

/-- Integers stay below this number; the least integer is as far below zero. -/
def integerBound : Nat := Nat.pow 2 63

/-- Reads an integer of 64 bits. Other bases than ten take no sign. -/
def integerLiteral : Scan Toml := do
  let inBase := fun base => do
    let n := Text.numberOf base (← groupedDigits base)
    if n < integerBound then return Toml.integer n else failure
  if ← Scan.accept "0x" then inBase 16
  else if ← Scan.accept "0o" then inBase 8
  else if ← Scan.accept "0b" then inBase 2
  else
    let negative ← sign
    let n := Text.numberOf 10 (← wholeDigits)
    if negative then if n ≤ integerBound then return .integer (-(n : Int)) else failure
    else if n < integerBound then return .integer n
    else failure

/-! ## Fractions -/

/-- The least number that rounds to infinity in double precision. -/
def overflowBound : Nat := Nat.pow 2 1024 - Nat.pow 2 970

/-- Whether the number that the digits spell, times a power of ten, is too large for double precision. -/
def overflows (digits : List Char) (exponent : Int) : Bool :=
  let m := Text.numberOf 10 digits
  match exponent with
  | .ofNat e => m ≠ 0 && (400 < e || overflowBound ≤ m * Nat.pow 10 e)
  | .negSucc k => k + 1 ≤ digits.length && overflowBound * Nat.pow 10 (k + 1) ≤ m

/-- Reads a number with a fraction, an exponent, or both. A positive number must not be too large. -/
def fractionLiteral : Scan Toml := do
  let negative ← sign
  if (← Scan.accept "inf") then return .float
  if (← Scan.accept "nan") then return .float
  let whole ← wholeDigits
  let decimals ← if ← Scan.accept "." then some <$> groupedDigits 10 else pure none
  let exponent ← match ← Scan.peek with
    | some 'e' | some 'E' =>
      let _ ← Scan.next
      let negative ← sign
      let n := Text.numberOf 10 (← groupedDigits 10)
      pure (some (if negative then -(n : Int) else n))
    | _ => pure none
  if decimals.isNone && exponent.isNone then failure
  let decimals := decimals.getD []
  if !negative && overflows (whole ++ decimals) (exponent.getD 0 - decimals.length) then failure
  return .float

/-! ## Dates and times -/

/-- Reads a number of so many digits within bounds. -/
def fixedNumber (digits least most : Nat) : Scan Nat := do
  let text ← (List.range digits).mapM fun _ => Scan.satisfy Char.isDigit
  let n := Text.numberOf 10 text
  if least ≤ n ∧ n ≤ most then return n else failure

/-- The days of a month. -/
def daysOf (year month : Nat) : Nat :=
  if month = 2 then if year % 4 = 0 ∧ (year % 100 ≠ 0 ∨ year % 400 = 0) then 29 else 28
  else if [4, 6, 9, 11].contains month then 30
  else 31

/-- Reads a date. -/
def date : Scan Unit := do
  let year ← fixedNumber 4 0 9999
  Scan.character '-'
  let month ← fixedNumber 2 1 12
  Scan.character '-'
  let _ ← fixedNumber 2 1 (daysOf year month)

/-- Reads the time of a day. -/
def clock : Scan Unit := do
  let _ ← fixedNumber 2 0 23
  Scan.character ':'
  let _ ← fixedNumber 2 0 59
  Scan.character ':'
  let _ ← fixedNumber 2 0 60
  if ← Scan.accept "." then
    let _ ← Scan.takeWhile1 Char.isDigit

/-- Takes an offset from universal time, if one comes next. -/
def offset : Scan Unit := do
  match ← Scan.peek with
  | some 'Z' | some 'z' =>
    let _ ← Scan.next
  | some '+' | some '-' =>
    let _ ← Scan.next
    let _ ← fixedNumber 2 0 23
    Scan.character ':'
    let _ ← fixedNumber 2 0 59
  | _ => pure ()

/-- Reads a date, a time, or both. -/
def timeLiteral : Scan Toml := do
  let clockBehindDate : Scan Unit := do
    let _ ← Scan.satisfy fun c => c == 'T' || c == 't' || c == ' '
    clock
    offset
  (do
    date
    clockBehindDate <|> pure ()) <|> clock
  return .time

/-- Reads a number or a time. -/
def numberOrTime : Scan Toml := timeLiteral <|> fractionLiteral <|> integerLiteral

end DependencyEvidence.Toml
