import DependencyEvidence.Evidence.Basic
import DependencyEvidence.Regex.Matching
import DependencyEvidence.Regex.Reader

/-!
# File name patterns

A file name is compared with a text, or matched with a regular expression that has to cover it.
-/

namespace DependencyEvidence

/-- The way in which a pattern is compared with a file name. -/
inductive Matcher where
  | literal (caseSensitive : Bool)
  | regex (expression : Regex)

/-- A pattern of file names, with the text by which it was given. -/
structure FilenamePattern where
  value : String
  matcher : Matcher

namespace FilenamePattern

/-- A text that a file name has to equal. -/
def literal (value : String) (caseSensitive : Bool) : FilenamePattern := ⟨value, .literal caseSensitive⟩

/-- The text of the expression that a whole file name has to match: the given one between the ends of the text. -/
def anchored (value : String) (caseSensitive : Bool) : List Char :=
  (if caseSensitive then [] else "(?i)".toList) ++ "^(?:".toList ++ value.toList ++ ")$".toList

/-- A regular expression that has to match a whole file name, if the text is one. -/
def regex? (value : String) (caseSensitive : Bool) : Option FilenamePattern :=
  (Regex.parse? (anchored value caseSensitive)).map fun r => ⟨value, .regex r⟩

/-- Whether a file name fits the pattern. -/
def accepts (p : FilenamePattern) (fileName : String) : Bool :=
  match p.matcher with
  | .literal true => p.value == fileName
  | .literal false => equalIgnoringCase p.value fileName
  | .regex r => r.search fileName.toList

end FilenamePattern

end DependencyEvidence
