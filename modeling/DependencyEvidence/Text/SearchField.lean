import DependencyEvidence.Text.Stream

/-!
# Search fields

The terms under which a text is found: its words are cut into alphanumeric fragments, taken to lower case, and joined
by the concatenation of every two neighbours. One analyzer serves many texts, one after another.
-/

namespace DependencyEvidence

/-- An analyzer of search fields, between two texts. -/
structure SearchField where
  stream : Stream
deriving Inhabited

namespace SearchField

/-- An analyzer that has seen no text. -/
def new : SearchField := ⟨(Stream.ofText "").stacked [.fragments, .lowercase, .pairs]⟩

/-- The tokens of a text, and the analyzer for the next one. -/
def tokens (a : SearchField) (text : String) : List Token × SearchField :=
  let r := (a.stream.reset.setText text).drain
  (r.1, ⟨r.2.finish.2⟩)

/-- The terms of a text, and the analyzer for the next one. -/
def terms (a : SearchField) (text : String) : List String × SearchField :=
  let r := a.tokens text
  (r.1.map (·.term), r.2)

end SearchField

end DependencyEvidence
