import DependencyEvidence.Regex.Basic

/-!
# Outlines of patterns

The outline of a pattern is what an automaton for it is drawn from. It keeps what a match leaves behind, the groups and
whether a repetition prefers fewer copies, and it is simplified as it is built: texts one after another are one text,
a choice between characters is a class, and what all branches of a choice start with stands before the choice.

`Outline.shortest` and `longest` bound the matches in bytes; `opensWith` and `closesWith` tell whether every match has
to start or end where an assertion holds.
-/

namespace DependencyEvidence

open Unicode (CodeSet)

/-- What an automaton for a pattern is drawn from. -/
inductive Outline where
  /-- The empty text. -/
  | empty
  /-- Certain characters, at least one. -/
  | text (characters : List Char)
  /-- One character of a set. -/
  | one (set : CodeSet)
  | holds (assertion : Assertion)
  | repeated (body : Outline) (least : Nat) (most : Option Nat) (lazily : Bool)
  /-- A group that a match remembers by its number. -/
  | group (number : Nat) (body : Outline)
  | sequence (parts : List Outline)
  | choice (branches : List Outline)

namespace Outline

/-! ## Equality -/

mutual

/-- Whether two outlines are the same. -/
def same : Outline → Outline → Bool
  | empty, empty => true
  | text s, text t => s == t
  | one s, one t => s == t
  | holds a, holds b => a == b
  | repeated r least most lazily, repeated s least' most' lazily' =>
    r.same s && least == least' && most == most' && lazily == lazily'
  | group n r, group m s => n == m && r.same s
  | sequence rs, sequence ss => sameAll rs ss
  | choice rs, choice ss => sameAll rs ss
  | _, _ => false

/-- Whether two lists of outlines are the same. -/
def sameAll : List Outline → List Outline → Bool
  | [], [] => true
  | r :: rs, s :: ss => r.same s && sameAll rs ss
  | _, _ => false

end

/-! ## Lengths -/

/-- The bytes that a code point takes. -/
def byteLength (n : Nat) : Nat := if n < 0x80 then 1 else if n < 0x800 then 2 else if n < 0x10000 then 3 else 4

/-- The bytes that characters take. -/
def byteLengthOf (characters : List Char) : Nat := characters.foldl (fun n c => n + c.utf8Size) 0

mutual

/-- The length of the shortest matches, if there are matches. -/
def shortest : Outline → Option Nat
  | empty => some 0
  | text s => some (byteLengthOf s)
  | one set => set.intervals[0]?.map fun i => byteLength i.1
  | holds _ => some 0
  | repeated r least _ _ => r.shortest.map (least * ·)
  | group _ r => r.shortest
  | sequence rs => (shortestEach rs).mapM id |>.map List.sum
  | choice rs => ((shortestEach rs).mapM id).bind List.min?

/-- The shortest lengths of several outlines. -/
def shortestEach : List Outline → List (Option Nat)
  | [] => []
  | r :: rs => r.shortest :: shortestEach rs

end

mutual

/-- The length of the longest matches, if they have a bound. -/
def longest : Outline → Option Nat
  | empty => some 0
  | text s => some (byteLengthOf s)
  | one set => set.intervals.back?.map fun i => byteLength i.2
  | holds _ => some 0
  | repeated r _ most _ => do some ((← most) * (← r.longest))
  | group _ r => r.longest
  | sequence rs => (longestEach rs).mapM id |>.map List.sum
  | choice rs => ((longestEach rs).mapM id).bind List.max?

/-- The longest lengths of several outlines. -/
def longestEach : List Outline → List (Option Nat)
  | [] => []
  | r :: rs => r.longest :: longestEach rs

end

/-! ## Ends -/

/-- Whether one of the flags is set up to the first part that may match some text, given with each part whether it
matches no text but the empty one. -/
def reachesFlag : List (Bool × Bool) → Bool
  | [] => false
  | (isEmpty, flag) :: rest => flag || (isEmpty && reachesFlag rest)

mutual

/-- Whether every match starts where the assertion holds. -/
def opensWith (a : Assertion) : Outline → Bool
  | holds b => a == b
  | repeated r least _ _ => 0 < least && r.opensWith a
  | group _ r => r.opensWith a
  | sequence rs => reachesFlag (opens a rs)
  | choice rs => (opens a rs).all (·.2)
  | _ => false

/-- For each of several outlines, whether it matches no text but the empty one, and whether it opens with the
assertion. -/
def opens (a : Assertion) : List Outline → List (Bool × Bool)
  | [] => []
  | r :: rs => (r.longest == some 0, r.opensWith a) :: opens a rs

end

mutual

/-- Whether every match ends where the assertion holds. -/
def closesWith (a : Assertion) : Outline → Bool
  | holds b => a == b
  | repeated r least _ _ => 0 < least && r.closesWith a
  | group _ r => r.closesWith a
  | sequence rs => reachesFlag (closes a rs).reverse
  | choice rs => (closes a rs).all (·.2)
  | _ => false

/-- For each of several outlines, whether it matches no text but the empty one, and whether it closes with the
assertion. -/
def closes (a : Assertion) : List Outline → List (Bool × Bool)
  | [] => []
  | r :: rs => (r.longest == some 0, r.closesWith a) :: closes a rs

end

/-! ## Building -/

/-- One character of a set, which is a text if there is only one. -/
def ofSet (set : CodeSet) : Outline :=
  match set.point? with
  | some n => text [Char.ofNat n]
  | none => one set

/-- A repetition. Further copies of the empty text change nothing, no copies are the empty text, and a single copy is
what is repeated. -/
def repetition (body : Outline) (least : Nat) (most : Option Nat) (lazily : Bool) : Outline :=
  let (least, most) :=
    if body.longest = some 0 then (min least 1, some (min (most.getD 1) 1)) else (least, most)
  if least = 0 ∧ most = some 0 then empty
  else if least = 1 ∧ most = some 1 then body
  else repeated body least most lazily

/-- The parts of an outline that stand one after another. -/
def parts : Outline → List Outline
  | sequence rs => rs
  | empty => []
  | r => [r]

/-- Joins texts that stand one after another. -/
def joinTexts : List Outline → List Outline
  | [] => []
  | r :: rest =>
    match r, joinTexts rest with
    | text s, text t :: more => text (s ++ t) :: more
    | r, more => r :: more

/-- Outlines one after another. -/
def inOrder (rs : List Outline) : Outline :=
  match joinTexts (rs.flatMap parts) with
  | [] => empty
  | [r] => r
  | rs => sequence rs

/-- The branches of an outline. -/
def branches : Outline → List Outline
  | choice rs => rs
  | r => [r]

/-- The character of an outline that is a single character. -/
def character? : Outline → Option Char
  | text [c] => some c
  | _ => none

/-- The set of an outline that is a class. -/
def set? : Outline → Option CodeSet
  | one set => some set
  | _ => none

/-- A choice between branches. Characters make a class, and so do classes. -/
def anyOf (rs : List Outline) : Outline :=
  match rs.flatMap branches with
  | [] => one (.ofIntervals [])
  | [r] => r
  | rs =>
    match rs.mapM character?, rs.mapM set? with
    | some characters, _ => ofSet (.ofIntervals (characters.map fun c => (c.toNat, c.toNat)))
    | none, some sets => ofSet (.union sets)
    | none, none => choice rs

/-- The parts of an outline that has several. -/
def parts? : Outline → Option (List Outline)
  | sequence rs => some rs
  | _ => none

/-- What two lists of outlines start with. -/
def commonStart (rs ss : List Outline) : List Outline := ((rs.zip ss).takeWhile fun p => p.1.same p.2).map (·.1)

/-- A choice between branches, behind what all of them start with. -/
def anyOfBehind (rs : List Outline) : Outline :=
  let rs := rs.flatMap branches
  match rs.mapM parts? with
  | some (first :: second :: more) =>
    let start := (second :: more).foldl commonStart first
    if start.isEmpty then anyOf rs
    else inOrder (start ++ [anyOf ((first :: second :: more).map fun parts => inOrder (parts.drop start.length))])
  | _ => anyOf rs

end Outline

end DependencyEvidence
