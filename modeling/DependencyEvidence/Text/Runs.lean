/-!
# Cutting text

* `runs sep` gives the maximal runs of characters that fail `sep`, none of them empty.
* `pieces sep` cuts at every `sep` and keeps the empty pieces, so that `joined` undoes it.
-/

namespace DependencyEvidence.Text

/-- The maximal runs of characters that fail `sep`; `run` is the run being read, last character first. -/
def runsFrom (sep : Char → Bool) (run : List Char) : List Char → List (List Char)
  | [] => if run.isEmpty then [] else [run.reverse]
  | c :: rest =>
    if sep c then
      if run.isEmpty then runsFrom sep [] rest else run.reverse :: runsFrom sep [] rest
    else runsFrom sep (c :: run) rest

/-- The maximal runs of characters that fail `sep`, in order. -/
def runs (sep : Char → Bool) (text : List Char) : List (List Char) := runsFrom sep [] text

/-- The pieces of a text between the separators. There is always one more piece than there are separators. -/
def pieces {α : Type} [DecidableEq α] (sep : α) : List α → List (List α)
  | [] => [[]]
  | c :: rest =>
    if c = sep then [] :: pieces sep rest
    else match pieces sep rest with
      | [] => [[c]]
      | p :: more => (c :: p) :: more

/-- The pieces with the separator between them. -/
def joined (sep : Char) : List (List Char) → List Char
  | [] => []
  | [p] => p
  | p :: q :: more => p ++ sep :: joined sep (q :: more)

theorem pieces_ne_nil (sep : Char) (text : List Char) : pieces sep text ≠ [] := by
  cases text with
  | nil => simp [pieces]
  | cons c rest => rw [pieces]; split <;> (try split) <;> simp

/-- Joining undoes cutting. -/
theorem joined_pieces (sep : Char) (text : List Char) : joined sep (pieces sep text) = text := by
  induction text with
  | nil => simp [pieces, joined]
  | cons c rest ih =>
    rw [pieces]
    cases h : pieces sep rest with
    | nil => exact absurd h (pieces_ne_nil sep rest)
    | cons p more =>
      rw [h] at ih
      split
      · next e => subst e; simp [joined, ih]
      · cases more with
        | nil => simp_all [joined]
        | cons q more => simp_all [joined]

end DependencyEvidence.Text
