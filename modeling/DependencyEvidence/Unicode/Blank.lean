import DependencyEvidence.Text.Runs
import DependencyEvidence.Unicode.CodeSet

/-!
# Blanks

The characters with the property White_Space, and the two ways in which text is cut at them: `trim` drops the blanks
at both ends and `words` gives the maximal runs of other characters.
-/

namespace DependencyEvidence.Unicode

/-- The code points with the property White_Space. -/
def blankIntervals : List (Nat × Nat) :=
  [(0x9, 0xD), (0x20, 0x20), (0x85, 0x85), (0xA0, 0xA0), (0x1680, 0x1680), (0x2000, 0x200A), (0x2028, 0x2029),
   (0x202F, 0x202F), (0x205F, 0x205F), (0x3000, 0x3000)]

/-- The property White_Space. -/
def isBlank (c : Char) : Bool := inIntervals blankIntervals c

/-- Drops the blanks at both ends. -/
def trim (text : List Char) : List Char :=
  ((text.dropWhile isBlank).reverse.dropWhile isBlank).reverse

/-- Drops the blanks at both ends of a string. -/
def trimmed (text : String) : String := String.ofList (trim text.toList)

/-- The words of a text: its maximal runs of characters that are no blanks. -/
def words (text : List Char) : List (List Char) := Text.runs isBlank text

end DependencyEvidence.Unicode
