import DependencyEvidence.Proofs.Text.Runs

/-!
# Filters as functions on lists

What each filter of tokens does to a whole list, with distances that can be of any size (`Spaced`): `Spaced.split` cuts
terms into their alphanumeric fragments and gives the positions that are left over behind the last one, `Spaced.pair`
puts a concatenation between every two neighbours, and lower case is taken term by term. `TokenFilter.allThrough`
composes the functions of a stack.

On terms alone, cutting gives the fragments of all terms (`map_term_split`), and pairing is `withNeighbours`
(`map_term_pair`).
-/

namespace DependencyEvidence

/-- A term and its distance from the term before it. Unlike the distance of a token, this one can be of any size. -/
structure Spaced where
  term : String
  distance : Nat
deriving DecidableEq, Repr

/-- The token with this term and distance. The distance wraps where it does not fit. -/
def Spaced.token (t : Spaced) : Token := ⟨t.term, .ofNat t.distance⟩

/-- The term and the distance of a token. -/
def Token.spaced (t : Token) : Spaced := ⟨t.term, t.increment.toNat⟩

@[simp] theorem Token.token_spaced (t : Token) : t.spaced.token = t := by
  cases t
  simp [Token.spaced, Spaced.token]

/-- A distance that fits is not changed. -/
theorem Spaced.spaced_token {t : Spaced} (h : t.distance < UInt32.size) : t.token.spaced = t := by
  cases t
  simp [Token.spaced, Spaced.token, Nat.mod_eq_of_lt h]

/-! ## Terms -/

/-- The alphanumeric fragments of a term. -/
def fragmentsOf (term : String) : List String := (Text.alphanumericRuns term.toList).map String.ofList

/-- A term in lower case. -/
def lowercased (term : String) : String := String.ofList (Unicode.lowercaseText term.toList)

/-- Terms, with the concatenation of every two neighbours between the two. -/
def withNeighbours : List String → List String
  | a :: b :: rest => a :: (a ++ b) :: withNeighbours (b :: rest)
  | terms => terms

/-! ## Lists -/

namespace Spaced

/-- Cuts terms into their alphanumeric fragments, and gives the positions behind the last one. `skipped` positions come
before the first term. The first fragment of a term is as far away as the term, plus the terms without fragments that
were skipped before it, and the others follow at distance one. -/
def split (skipped : Nat) : List Spaced → List Spaced × Nat
  | [] => ([], skipped)
  | t :: rest =>
    match fragmentsOf t.term with
    | [] => split (skipped + t.distance) rest
    | part :: parts =>
      (⟨part, t.distance + skipped⟩ :: parts.map (⟨·, 1⟩) ++ (split 0 rest).1, (split 0 rest).2)

/-- Takes a term to lower case. -/
def lower (t : Spaced) : Spaced := { t with term := lowercased t.term }

/-- Puts the concatenation of every two neighbours between the two, at distance zero. -/
def pair : List Spaced → List Spaced
  | t :: u :: rest => t :: ⟨t.term ++ u.term, 0⟩ :: pair (u :: rest)
  | l => l

theorem map_term_split (skipped : Nat) (l : List Spaced) :
    (split skipped l).1.map term = (l.map term).flatMap fragmentsOf := by
  induction l generalizing skipped with
  | nil => rfl
  | cons t rest ih =>
    rw [split, List.map_cons, List.flatMap_cons]
    cases h : fragmentsOf t.term with
    | nil => simpa using ih _
    | cons part parts => simp [ih, Function.comp_def]

theorem map_term_pair (l : List Spaced) : (pair l).map term = withNeighbours (l.map term) := by
  fun_induction pair l with
  | case1 t u rest ih => simpa [withNeighbours] using ih
  | case2 l h =>
    match l with
    | [] => rfl
    | [t] => rfl
    | t :: u :: rest => exact absurd rfl (h t u rest)

end Spaced

namespace TokenFilter

/-- What a filter makes of a list, and the positions that are left over. -/
def through : TokenFilter → List Spaced → List Spaced × Nat
  | fragments, l => Spaced.split 0 l
  | lowercase, l => (l.map Spaced.lower, 0)
  | pairs, l => (Spaced.pair l, 0)

/-- What a stack of filters, the innermost one first, makes of a list, and all the positions that are left over. -/
def allThrough : List TokenFilter → List Spaced → List Spaced × Nat
  | [], l => (l, 0)
  | f :: filters, l =>
    ((allThrough filters (f.through l).1).1, (f.through l).2 + (allThrough filters (f.through l).1).2)

end TokenFilter

end DependencyEvidence
