import DependencyEvidence.Regex.Basic

/-!
# Matching

An expression leads from places of a text to further places. A set of places is a number whose bits are the places, so
that all places are followed at once.

* `Regex.Leads` says between which places an expression matches.
* `Regex.advance` computes, from a set of places, the set of those that the expression leads to.
* `Regex.search` tells whether the expression matches anywhere in a text.
-/

namespace DependencyEvidence.Regex

/-! ## What a match is -/

/-- What stands before and after each place of a text, given the character before its first place. -/
def placesAfter (before : Option Char) : List Char → List (Option Char × Option Char)
  | [] => [(before, none)]
  | c :: rest => (before, some c) :: placesAfter (some c) rest

/-- What stands before and after each place of a text. -/
def places (text : List Char) : List (Option Char × Option Char) := placesAfter none text

/-- `r.Leads text i j`: the expression matches the part of the text between the places `i` and `j`. -/
inductive Leads (text : List Char) : Regex → Nat → Nat → Prop where
  | empty (i : Nat) : Leads text .empty i i
  | one {set : CharClass} {i : Nat} {c : Char} (at_i : text[i]? = some c) (mem : set.mem c) :
    Leads text (.one set) i (i + 1)
  | holds {a : Assertion} {i : Nat} {p : Option Char × Option Char} (at_i : (places text)[i]? = some p)
    (holds : a.holdsBetween p.1 p.2) : Leads text (.holds a) i i
  | andThen {r s : Regex} {i j k : Nat} (first : Leads text r i j) (second : Leads text s j k) :
    Leads text (.andThen r s) i k
  | left {r s : Regex} {i j : Nat} (branch : Leads text r i j) : Leads text (.either r s) i j
  | right {r s : Regex} {i j : Nat} (branch : Leads text s i j) : Leads text (.either r s) i j
  | stop {r : Regex} {most : Option Nat} (i : Nat) : Leads text (.repeated r 0 most) i i
  | again {r : Regex} {least : Nat} {most : Option Nat} {i j k : Nat} (room : most ≠ some 0)
    (first : Leads text r i j) (more : Leads text (.repeated r (least - 1) (most.map (· - 1))) j k) :
    Leads text (.repeated r least most) i k

/-! ## Sets of places -/

/-- The number with the given bits, lowest first. -/
def ofBits : List Bool → Nat
  | [] => 0
  | b :: rest => 2 * ofBits rest + b.toNat

/-- Applies a function `n` times, or until it changes nothing. -/
def repeatedly {α : Type} [DecidableEq α] (f : α → α) : Nat → α → α
  | 0, a => a
  | n + 1, a =>
    let b := f a
    if b = a then a else repeatedly f n b

/-- The places that an expression leads to from a set of places. -/
def advance (text : List Char) : Regex → Nat → Nat
  | .empty, from_ => from_
  | .one set, from_ => (from_ &&& ofBits (text.map set.mem)) <<< 1
  | .holds a, from_ => from_ &&& ofBits ((places text).map fun p => a.holdsBetween p.1 p.2)
  | .andThen r s, from_ => s.advance text (r.advance text from_)
  | .either r s, from_ => r.advance text from_ ||| s.advance text from_
  | .repeated r least most, from_ =>
    let start := repeatedly (r.advance text) least from_
    let more := fun reached => reached ||| r.advance text reached
    match most with
    | some m => repeatedly more (m - least) start
    | none => repeatedly more (text.length + 1) start

/-- Whether the expression matches some part of a text. -/
def search (r : Regex) (text : List Char) : Bool := r.advance text (Nat.pow 2 (text.length + 1) - 1) != 0

end DependencyEvidence.Regex
