/-!
# Suffixes

What a text ends with (`hasSuffix`), and what is left before it (`withoutSuffix?`).
-/

namespace DependencyEvidence.Text

/-- Whether a text ends with a suffix. -/
def hasSuffix (suffix text : String) : Bool := suffix.toList.isSuffixOf text.toList

/-- What stands before a suffix. -/
def withoutSuffix? (suffix text : String) : Option String :=
  if hasSuffix suffix text then some (String.ofList (text.toList.take (text.toList.length - suffix.toList.length)))
  else none

theorem hasSuffix_iff {suffix text : String} : hasSuffix suffix text = true ↔ suffix.toList <:+ text.toList := by
  simp [hasSuffix]

end DependencyEvidence.Text
