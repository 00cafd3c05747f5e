import DependencyEvidence.Confidence
import DependencyEvidence.Unicode.Lowercase

/-!
# Evidence

One observation about a dependency: where it was made, what was observed, the value, and the confidence in it.

* `equalIgnoringCase` compares texts character by character in lower case.
* `Evidence.identity` is what makes two observations the same: source, name and value ignoring case. The confidence
  does not count.
* `Evidence.hashed` is what a hash table is fed. It gives two observations the same feed exactly if they are the same.
-/

namespace DependencyEvidence

/-- The text that stands for all texts that differ from it in case only. -/
def folded (text : String) : List Char := Unicode.lowercaseEach text.toList

/-- Whether two texts are equal up to the case of single characters. -/
def equalIgnoringCase (a b : String) : Bool := folded a == folded b

/-- An observation about a dependency. -/
structure Evidence where
  source : String
  name : String
  value : String
  confidence : Confidence
deriving DecidableEq, Repr, Inhabited

/-- What makes two observations the same. -/
structure Identity where
  source : List Char
  name : List Char
  value : List Char
deriving DecidableEq, Repr

/-- One write into a hash: a character, or the end of a field. -/
inductive HashWrite where
  | character (c : Char)
  | fieldEnd
deriving DecidableEq, Repr

namespace Evidence

/-- The identity of an observation. -/
def identity (e : Evidence) : Identity := ⟨folded e.source, folded e.name, folded e.value⟩

/-- Whether two observations have the same identity. -/
def same (e f : Evidence) : Bool :=
  equalIgnoringCase e.source f.source && equalIgnoringCase e.name f.name && equalIgnoringCase e.value f.value

theorem same_iff (e f : Evidence) : e.same f = true ↔ e.identity = f.identity := by
  simp [same, identity, equalIgnoringCase, and_assoc]

/-- An observation in one line. -/
def display (e : Evidence) : String :=
  e.source ++ "/" ++ e.name ++ "=" ++ e.value ++ " (" ++ e.confidence.name ++ ")"

/-- The writes of one field. -/
def hashedField (text : String) : List HashWrite := (folded text).map .character ++ [.fieldEnd]

/-- The writes of an observation: its three fields, each closed. -/
def hashed (e : Evidence) : List HashWrite := hashedField e.source ++ hashedField e.name ++ hashedField e.value

/-- How many different observations a list holds, as a hash table counts them. -/
def countDistinct (items : List Evidence) : Nat := (items.map hashed).eraseDups.length

end Evidence

end DependencyEvidence
