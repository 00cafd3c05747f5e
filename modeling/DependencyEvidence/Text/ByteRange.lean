/-!
# Intervals of bytes

The characters between two code points are spelled by finitely many sequences of byte intervals: one byte of each
interval, in order. `byteSequences` lists them in ascending order.
-/

namespace DependencyEvidence.Text

/-- The bytes from the first to the last. -/
abbrev ByteRange := UInt8 × UInt8

/-- The bytes of a code point. -/
def bytesOf (n : Nat) : List UInt8 := String.utf8EncodeChar (Char.ofNat n)

/-- The last code points of each length in bytes. -/
def lengthEnds : List Nat := [0x7F, 0x7FF, 0xFFFF]

/-- Where the code points of an interval, all of one length in bytes, have to be cut so that the bytes behind a common
start run through all of theirs: behind the first block of `size` points if the interval starts within it, and before
the last one if it ends within it. -/
def blockCut? (first last size : Nat) : Option Nat :=
  if first / size = last / size then none
  else if first % size ≠ 0 then some (first / size * size + size - 1)
  else if last % size ≠ size - 1 then some (last / size * size - 1)
  else none

/-- The end of the first part, where an interval of code points has to be cut. -/
def cut? (first last : Nat) : Option Nat :=
  match lengthEnds.find? fun n => first ≤ n && n < last with
  | some n => some n
  | none => if last < 0x80 then none else [0x40, 0x1000, 0x40000].findSome? (blockCut? first last)

/-- The sequences for an interval without surrogates. -/
def sequencesBetween (first last : Nat) : List (List ByteRange) :=
  match cut? first last with
  | none => [(bytesOf first).zip (bytesOf last)]
  | some n => if first ≤ n ∧ n < last then sequencesBetween first n ++ sequencesBetween (n + 1) last else []
termination_by last - first

/-- The sequences for an interval of code points. Surrogates have no bytes. -/
def byteSequences (interval : Nat × Nat) : List (List ByteRange) :=
  let (first, last) := interval
  let parts := [(first, min last 0xD7FF), (max first 0xE000, last)].filter fun i => i.1 ≤ i.2
  parts.flatMap fun i => sequencesBetween i.1 i.2

end DependencyEvidence.Text
