/-!
# Tokens

A term of a search field together with its distance from the term before it. Distances are 32-bit words: adding two of
them wraps.
-/

namespace DependencyEvidence

/-- A term and its position increment: `1` for the next position, `0` for the position of the token before, more where
positions were skipped. -/
structure Token where
  term : String
  increment : UInt32
deriving DecidableEq, Repr, Inhabited

namespace Token

/-- A token at the next position. -/
def next (term : String) : Token := ⟨term, 1⟩

end Token

end DependencyEvidence
