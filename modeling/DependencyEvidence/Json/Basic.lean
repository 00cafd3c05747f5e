/-!
# JSON values

The tree of a JSON document. Numbers keep their digits. A text may be written with half of a surrogate pair standing
alone; such a text has no characters, and the tree holds `none` in its place.
-/

namespace DependencyEvidence

/-- A JSON value. -/
inductive Json where
  | null
  | bool (value : Bool)
  | number (digits : String)
  | text (content : Option String)
  | array (items : List Json)
  | object (members : List (Option String × Json))
deriving Inhabited

namespace Json

/-- A text. -/
def ofText (content : String) : Json := .text (some content)

/-- A text, or null. -/
def ofText? : Option String → Json
  | some content => .ofText content
  | none => .null

/-- An object with these members. -/
def record (members : List (String × Json)) : Json := .object (members.map fun m => (some m.1, m.2))

/-- The characters of a text. -/
def text? : Json → Option String
  | .text content => content
  | _ => none

/-- A record's known fields by name. A record is written as an object, where no known name may occur twice and other
names do not count, or as an array of the first fields in order. -/
def fields? (names : List String) : Json → Option (List (String × Json))
  | .array items => if items.length ≤ names.length then some (names.zip items) else none
  | .object members => do
    let named ← members.mapM fun m => m.1.map (·, m.2)
    let known := named.filter fun m => names.contains m.1
    if (known.map (·.1)).Nodup then some known else none
  | _ => none

/-- The tag of a constant: a text, or an object whose only member has the tag for its name and null for its value. The
object takes one level of nesting. -/
def tag? (levels : Nat) : Json → Option String
  | .text content => content
  | .object [(name, .null)] => if 0 < levels then name else none
  | _ => none

end Json

end DependencyEvidence
