/-!
# Scanners

A scanner takes characters off the front of a text and gives a value, or fails. Failing leaves no trace, so that
alternatives can be tried one after another.

* `Scan.next`, `accept`, `takeWhile` and their kin take characters.
* `Scan.iterate` repeats a step that takes something every time. A step that takes nothing makes it fail, which is why
  it ends on every text.
-/

namespace DependencyEvidence

/-- A scanner of texts. -/
abbrev Scan := StateT (List Char) Option

/-- What a repeated step says: go on, or stop with a result. -/
inductive Scan.Step (σ ρ : Type) where
  | again (state : σ)
  | stop (result : ρ)

namespace Scan

/-- Runs a scanner over a whole text; what it leaves over makes it fail. -/
def whole {α : Type} (p : Scan α) (text : List Char) : Option α :=
  match p text with
  | some (a, []) => some a
  | _ => none

/-- Succeeds with a value that is there. -/
def present {α : Type} : Option α → Scan α
  | some a => pure a
  | none => failure

/-- The next character, which stays. -/
def peek : Scan (Option Char) := do return (← get).head?

/-- Whether the text is at its end. -/
def atEnd : Scan Bool := do return (← get).isEmpty

/-- Takes the next character. -/
def next : Scan Char
  | c :: rest => some (c, rest)
  | [] => none

/-- Takes the next character if it passes a test, and fails otherwise. -/
def satisfy (test : Char → Bool) : Scan Char := do
  let c ← next
  if test c then pure c else failure

/-- Takes one certain character. -/
def character (c : Char) : Scan Unit := do let _ ← satisfy (· == c)

/-- Takes a word if it comes next, and tells whether it did. -/
def accept (word : String) : Scan Bool := fun text =>
  if word.toList.isPrefixOf text then some (true, text.drop word.toList.length) else some (false, text)

/-- Takes the first word of a table that comes next, and gives what stands beside it in the table. -/
def acceptOne {α : Type} : List (String × α) → Scan (Option α)
  | [] => pure none
  | (word, a) :: more => do
    if ← accept word then return some a else acceptOne more

/-- Takes one certain word. -/
def word (w : String) : Scan Unit := do
  if ← accept w then pure () else failure

/-- Takes characters as long as they pass a test. -/
def takeWhile (test : Char → Bool) : Scan (List Char) := fun text =>
  some (text.takeWhile test, text.dropWhile test)

/-- Takes characters that pass a test, at least one of them. -/
def takeWhile1 (test : Char → Bool) : Scan (List Char) := do
  match ← takeWhile test with
  | [] => failure
  | cs => pure cs

/-- Drops characters as long as they pass a test. -/
def skipWhile (test : Char → Bool) : Scan Unit := fun text => some ((), text.dropWhile test)

/-- Repeats a step until it stops. Every step but the last has to take a character. -/
def iterate {σ ρ : Type} (step : σ → Scan (Step σ ρ)) (s : σ) : Scan ρ := fun text =>
  match step s text with
  | none => none
  | some (.stop result, rest) => some (result, rest)
  | some (.again s, rest) => if rest.length < text.length then iterate step s rest else none
termination_by text => text.length

end Scan

end DependencyEvidence
