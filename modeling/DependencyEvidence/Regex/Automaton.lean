import DependencyEvidence.Regex.Outline
import DependencyEvidence.Text.ByteRange
import Std.Data.TreeMap

/-!
# The size of automata

A pattern is matched by two automata, one that follows a text byte by byte from its start, and one that follows it from
its end. They are drawn state by state from the outline of the pattern, and neither may grow beyond a limit
(`fitsIn`). Repetitions are counted out, so that a short pattern may stand for a huge automaton.

Only the size of a drawing is kept, and the number of a state is the number of states that were drawn before it. A state
takes `stateSize` bytes, and more for the ways out that it lists: `wayOfBytes` for each way by a range of bytes, and
`wayOfFork` for each way out of a fork.

Every pattern is drawn. An engine that looks for the texts of a pattern directly, where these are few, draws nothing for
such a pattern: it takes `[a&&b]{1000000}|x`, which matches `x` alone, and here it is too large.
-/

namespace DependencyEvidence.Automaton

open Text (ByteRange)

/-- Which way an automaton follows a text. -/
inductive Direction where
  | forwards
  | backwards
deriving DecidableEq, Repr

/-! ## Drawings -/

/-- The states of a drawing, and the bytes of the ways out that they list. -/
structure Drawing where
  states : Nat
  ways : Nat

/-- The bytes of a state. -/
def stateSize : Nat := 32

/-- The bytes of a way by a range of bytes. -/
def wayOfBytes : Nat := 8

/-- The bytes of a way out of a fork. -/
def wayOfFork : Nat := 4

/-- The bytes of a drawing. -/
def Drawing.size (d : Drawing) : Nat := stateSize * d.states + d.ways

/-- How large a drawing may get. -/
def sizeLimit : Nat := 10 * Nat.pow 2 20

/-- A step of drawing, which fails as soon as the drawing is too large. -/
abbrev Draw := StateT Drawing Option

/-- A drawing, if it is not too large. -/
def Drawing.checked? (d : Drawing) : Option Drawing := if d.size ≤ sizeLimit then some d else none

/-- Draws a state that lists ways of so many bytes, and gives its number. -/
def addState (ways : Nat) : Draw Nat := fun d =>
  (Drawing.checked? ⟨d.states + 1, d.ways + ways⟩).map fun drawn => (d.states, drawn)

/-- Lists ways of so many bytes at states that are drawn. -/
def addWays (ways : Nat) : Draw Unit := fun d =>
  (Drawing.checked? { d with ways := d.ways + ways }).map fun drawn => ((), drawn)

/-- The last state of a part of an automaton, which is led on to what follows. -/
inductive Exit where
  /-- A state with a single way out. -/
  | plain
  /-- A fork, which lists the way. -/
  | fork
deriving DecidableEq, Repr

/-- Leads an exit on to another state. -/
def Exit.lead : Exit → Draw Unit
  | plain => pure ()
  | fork => addWays wayOfFork

/-! ## States used again -/

/-- States that can be used again. The key of a state assigns it to a slot, and a slot keeps the state that was put
there last. -/
abbrev Slots := Std.TreeMap Nat (List Nat × Nat)

/-- A step of drawing that may use states again. -/
abbrev Share := StateT Slots Draw

/-- Numbers mixed to one: each in turn is added without carry and the result multiplied, in words of 64 bits. -/
def mixed (numbers : List Nat) : Nat :=
  (numbers.foldl (fun (h : UInt64) n => (h ^^^ n.toUInt64) * 1099511628211) 14695981039346656037).toNat

/-- The state with a key, among so many slots; it is drawn if its slot does not have it. -/
def shared (slots : Nat) (key : List Nat) (ways : Nat) : Share Nat := do
  let slot := mixed key % slots
  match (← get)[slot]? with
  | some (kept, number) => if kept = key then return number else draw slot
  | none => draw slot
where
  /-- Draws the state and puts it into the slot. -/
  draw (slot : Nat) : Share Nat := do
    let number ← addState ways
    modify fun kept => kept.insert slot (key, number)
    return number

/-! ## Classes -/

/-- The slots for states of classes, forwards and backwards. -/
def classSlots : Direction → Nat
  | .forwards => 10000
  | .backwards => 1000

/-- Draws the states that lead from one state to the target by the sequences, and gives that state. Ends that lead to
the target in the same way are shared. -/
def entrance (target : Nat) : Nat → List (List ByteRange) → Share Nat
  | 0, _ => pure target
  | length + 1, sequences => do
    let bundles := sequences.splitBy fun s t => s.head? == t.head?
    let ways ← bundles.mapM fun bundle => do
      let rest := (bundle.map (·.drop 1)).filter (!·.isEmpty)
      let next ← if rest.isEmpty then pure target else entrance target length rest
      match bundle.head?.bind List.head? with
      | some (first, last) => return [first.toNat, last.toNat, next]
      | none => return []
    shared (classSlots .forwards) ways.flatten (wayOfBytes * ways.length)

/-- Draws the states that lead from the target backwards by a sequence, and gives the last of them. Starts that come
from the target in the same way are shared. -/
def wayBack (target : Nat) (sequence : List ByteRange) : Share Nat :=
  sequence.foldlM
    (fun from_ range => shared (classSlots .backwards) [from_, range.1.toNat, range.2.toNat] 0) target

/-- Draws a class. -/
def drawClass (d : Direction) (set : Unicode.CodeSet) : Draw Exit := do
  if set.isAscii then
    let _ ← addState 0
    let _ ← addState (wayOfBytes * set.intervals.size)
  else
    let sequences := set.intervals.toList.flatMap Text.byteSequences
    match d with
    | .forwards =>
      let target ← addState 0
      let _ ← (entrance target 4 sequences).run' {}
    | .backwards =>
      let _ ← addState (wayOfFork * sequences.length)
      let target ← addState 0
      let _ ← (sequences.mapM (wayBack target)).run' {}
  return .plain

/-! ## Choices between texts -/

/-- Cuts texts at the empty ones, of which those at the start count once. -/
def segments (texts : List (List UInt8)) : List (List (List UInt8)) :=
  let nonempty := texts.dropWhile (·.isEmpty)
  cutAtEmpty (if nonempty.length < texts.length then [] :: nonempty else nonempty)
where
  /-- Cuts texts at the empty ones. -/
  cutAtEmpty : List (List UInt8) → List (List (List UInt8))
    | [] => [[]]
    | t :: rest =>
      if t.isEmpty then [] :: cutAtEmpty rest
      else match cutAtEmpty rest with
        | [] => [[t]]
        | s :: more => (t :: s) :: more

/-- Draws a tree of texts that are no longer than `length`. Every text that ends at a place cuts the ways from there in
two, before and after it. -/
def drawTree : Nat → List (List UInt8) → Draw Unit
  | 0, _ => pure ()
  | length + 1, texts => do
    let segments := segments texts
    let bytes := segments.map fun s => (s.filterMap List.head?).eraseDups
    (segments.zip bytes).forM fun (segment, bytes) => do
      bytes.forM fun b => do
        let rest := (segment.filter (·.head? = some b)).map (·.drop 1)
        if rest.all (·.isEmpty) then pure () else drawTree length rest
      if bytes.isEmpty then pure ()
      else
        let _ ← addState (if bytes.length = 1 then 0 else wayOfBytes * bytes.length)
    let _ ← addState (wayOfFork * ((bytes.filter (!·.isEmpty)).length + (segments.length - 1)))

/-- Draws a choice between texts. -/
def drawTexts (texts : List (List UInt8)) : Draw Exit := do
  let _ ← addState 0
  drawTree ((texts.map List.length).max?.getD 0 + 1) texts
  return .plain

/-! ## Sequences, choices and repetitions -/

/-- Draws the empty text. -/
def drawNothing : Draw Exit := do
  let _ ← addState 0
  return .plain

/-- Draws parts behind an exit. -/
def drawBehind (exit : Exit) : List (Draw Exit) → Draw Exit
  | [] => return exit
  | part :: rest => do
    exit.lead
    drawBehind (← part) rest

/-- Draws parts one after another. -/
def drawSequence : List (Draw Exit) → Draw Exit
  | [] => drawNothing
  | part :: rest => do drawBehind (← part) rest

/-- Draws a fork to two branches or more, and the state in which they meet. -/
def drawChoice : List (Draw Exit) → Draw Exit
  | first :: second :: more => do
    let a ← first
    let b ← second
    let _ ← addState (2 * wayOfFork)
    let _ ← addState 0
    a.lead
    b.lead
    more.forM fun branch => do
      addWays wayOfFork
      (← branch).lead
    return .plain
  | [branch] => branch
  | [] => drawNothing

/-- Draws `n` further copies of a part behind an exit. -/
def drawFurther (part : Draw Exit) : Nat → Exit → Draw Exit
  | 0, exit => return exit
  | n + 1, exit => do
    exit.lead
    drawFurther part n (← part)

/-- Draws `n` copies of a part. -/
def drawCopies (part : Draw Exit) : Nat → Draw Exit
  | 0 => drawNothing
  | n + 1 => do drawFurther part n (← part)

/-- Draws `n` copies of a part behind an exit, each of which may be left out with those after it. -/
def drawOptional (part : Draw Exit) : Nat → Exit → Draw Exit
  | 0, exit => return exit
  | n + 1, exit => do
    let _ ← addState (2 * wayOfFork)
    exit.lead
    drawOptional part n (← part)

/-- Draws a part that is repeated without end, given whether it may match the empty text. -/
def drawEndless (mayBeEmpty : Bool) (part : Draw Exit) : Nat → Draw Exit
  | 0 => do
    if mayBeEmpty then
      let exit ← part
      let _ ← addState (2 * wayOfFork)
      let _ ← addState (2 * wayOfFork)
      let _ ← addState 0
      exit.lead
      return .plain
    else
      let _ ← addState wayOfFork
      (← part).lead
      return .fork
  | 1 => do
    let exit ← part
    let _ ← addState wayOfFork
    exit.lead
    return .fork
  | n + 2 => do
    let exit ← drawCopies part (n + 1)
    let last ← part
    let _ ← addState wayOfFork
    exit.lead
    last.lead
    return .fork

/-- Draws a repetition. -/
def drawRepetition (mayBeEmpty : Bool) (part : Draw Exit) (least : Nat) : Option Nat → Draw Exit
  | none => drawEndless mayBeEmpty part least
  | some most => do
    if least = 0 ∧ most = 1 then
      let _ ← addState (2 * wayOfFork)
      let exit ← part
      let _ ← addState 0
      exit.lead
      return .plain
    let exit ← drawCopies part least
    if least = most then return exit
    let _ ← addState 0
    (← drawOptional part (most - least) exit).lead
    return .plain

/-- Draws a group between the states that remember its ends. -/
def drawGroup (part : Draw Exit) : Draw Exit := do
  let _ ← addState 0
  let exit ← part
  let _ ← addState 0
  exit.lead
  return .plain

/-! ## Outlines -/

/-- The text of an outline that is a text. -/
def text? : Outline → Option (List UInt8)
  | .text s => some (s.flatMap String.utf8EncodeChar)
  | _ => none

/-- Parts in the order in which an automaton meets them. -/
def Direction.order {α : Type} (d : Direction) (parts : List α) : List α :=
  match d with
  | .forwards => parts
  | .backwards => parts.reverse

mutual

/-- Draws an outline. Only forwards the ends of groups are remembered. -/
def draw (d : Direction) : Outline → Draw Exit
  | .empty => drawNothing
  | .text s => drawSequence ((s.flatMap String.utf8EncodeChar).map fun _ => drawNothing)
  | .one set => drawClass d set
  | .holds _ => drawNothing
  | .repeated r least most _ => drawRepetition (r.shortest.all (· == 0)) (draw d r) least most
  | .group _ r =>
    match d with
    | .backwards => draw d r
    | .forwards => drawGroup (draw d r)
  | .sequence rs => drawSequence (d.order (drawEach d rs))
  | .choice rs =>
    match rs.mapM text? with
    | some texts => drawTexts (texts.map d.order)
    | none => drawChoice (drawEach d rs)

/-- The drawings of several outlines. -/
def drawEach (d : Direction) : List Outline → List (Draw Exit)
  | [] => []
  | r :: rs => draw d r :: drawEach d rs

end

/-! ## Automata -/

/-- Whether the matches of a pattern can only start where the automaton does. -/
def isAnchored (d : Direction) (pattern : Outline) : Bool :=
  match d with
  | .forwards => pattern.opensWith .textStart
  | .backwards => pattern.closesWith .textEnd

/-- Draws any single byte. -/
def drawByte : Draw Exit := do
  let _ ← addState 0
  let _ ← addState wayOfBytes
  return .plain

/-- Draws the automaton of a pattern: what it passes over before a match, the pattern as the group that is the whole
match, and the state that accepts. -/
def drawAutomaton (d : Direction) (pattern : Outline) : Draw Unit := do
  let before ← if isAnchored d pattern then drawNothing else drawEndless false drawByte 0
  let exit ← draw d (.group 0 pattern)
  let _ ← addState 0
  exit.lead
  before.lead

/-- Whether a pattern has automata of a bearable size. -/
def fits (pattern : Outline) : Bool :=
  [Direction.forwards, .backwards].all fun d => ((drawAutomaton d pattern).run ⟨0, 0⟩).isSome

end DependencyEvidence.Automaton
