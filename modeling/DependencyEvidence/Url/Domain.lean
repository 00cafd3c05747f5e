import DependencyEvidence.Url.Label

/-!
# Domains

The names of hosts. A domain is read in the spelling that counts, label by label (`domain?`).
-/

namespace DependencyEvidence.Url

/-- The domain that a text spells, with its labels in the characters that they stand for. -/
def domain? (text : List Char) : Option (List Char) := do
  let spelling ← text.mapM spelled?
  let labels ← (Text.pieces '.' (Unicode.composed spelling.flatten)).mapM Label.read?
  let runsBack := labels.any fun label => label.any fun c => Label.runsBack (Unicode.Direction.ofChar c)
  if labels.all fun label => Label.isSound label && (!runsBack || Label.isDirected label) then
    some (Text.joined '.' labels)
  else none

end DependencyEvidence.Url
