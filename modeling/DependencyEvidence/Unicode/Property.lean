import DependencyEvidence.Unicode.Age
import DependencyEvidence.Unicode.Blank
import DependencyEvidence.Unicode.Binary
import DependencyEvidence.Unicode.Break
import DependencyEvidence.Unicode.Category
import DependencyEvidence.Unicode.Script
import DependencyEvidence.Unicode.ScriptExtension

/-!
# Properties by name

A property is named loosely: case, blanks, hyphens, underscores and a leading `is` do not count (`looseName`). A name
by itself is a binary property, a general category or a script, tried in that order (`namedSet?`); a property with a
value is a category, a script, a script extension, an age or a part in a break (`valuedSet?`).
-/

namespace DependencyEvidence.Unicode

/-! ## Loose names -/

/-- Whether a name opens with `is`, in any case. -/
def opensWithIs : List Char → Bool
  | i :: s :: _ => (i == 'i' || i == 'I') && (s == 's' || s == 'S')
  | _ => false

/-- The loose form of a name. Only its ASCII characters count, and `isc` keeps its `is`. -/
def looseName (name : List Char) : String :=
  let body := if opensWithIs name then name.drop 2 else name
  let kept := (body.filter fun c => c.toNat < 0x80 && c ≠ ' ' && c ≠ '-' && c ≠ '_').map Char.toLower
  if opensWithIs name && kept == ['c'] then "isc" else String.ofList kept

/-! ## Sets -/

/-- The row of a table that carries a name. -/
def row? (table : List (List String × String)) (name : String) : Option CodeSet :=
  (table.find? (·.1.contains name)).map fun r => CodeSet.ofText r.2

/-- The union of the categories with the given short names. -/
def categories (names : List String) : CodeSet := CodeSet.union (names.filterMap (row? categoryTable))

/-- The categories that are unions of others, by their loose names. -/
def categoryUnions : List (List String × List String) :=
  [(["l", "letter"], ["lu", "ll", "lt", "lm", "lo"]),
   (["lc", "casedletter"], ["lu", "ll", "lt"]),
   (["m", "mark", "combiningmark"], ["mn", "mc", "me"]),
   (["n", "number"], ["nd", "nl", "no"]),
   (["p", "punctuation", "punct"], ["pc", "pd", "ps", "pe", "pi", "pf", "po"]),
   (["s", "symbol"], ["sm", "sc", "sk", "so"]),
   (["z", "separator"], ["zs", "zl", "zp"])]

/-- The categories of visible characters and separators. -/
def graphicCategories : List String :=
  ["lu", "ll", "lt", "lm", "lo", "mn", "mc", "me", "nd", "nl", "no", "pc", "pd", "ps", "pe", "pi", "pf", "po",
   "sm", "sc", "sk", "so", "zs", "zl", "zp"]

/-- The assigned code points. -/
def assigned : CodeSet := categories (graphicCategories ++ ["cc", "cf", "co"])

/-- A general category by its loose name. -/
def category? (name : String) : Option CodeSet :=
  if name = "any" then some (CodeSet.ofIntervals [(0, 0x10FFFF)])
  else if name = "assigned" then some assigned
  else if name = "ascii" then some (CodeSet.ofIntervals [(0, 0x7F)])
  else if name = "cn" ∨ name = "unassigned" then some assigned.complement
  else if name = "c" ∨ name = "other" then some (categories graphicCategories).complement
  else match categoryUnions.find? (·.1.contains name) with
    | some u => some (categories u.2)
    | none => row? categoryTable name

/-- A binary property, a category or a script by its name. Three names of categories are also short for properties
that are not binary, and mean the category. -/
def namedSet? (name : List Char) : Option CodeSet :=
  let loose := looseName name
  let binary := if ["cf", "sc", "lc"].contains loose then none else row? binaryTable loose
  binary.or ((category? loose).or (row? scriptTable loose))

/-- The code points that an edition of the character set has: those that it added and those of the editions before. -/
def edition? (name : String) : Option CodeSet :=
  let before := ageTable.takeWhile (!·.1.contains name)
  let added := ageTable.drop before.length
  added.head?.map fun r => CodeSet.union ((before ++ [r]).map fun r => CodeSet.ofText r.2)

/-- The code points for which the named property has the named value. -/
def valuedSet? (property value : List Char) : Option CodeSet :=
  let property := looseName property
  let value := looseName value
  let isNamed := fun (names : List String) => names.contains property
  if isNamed ["gc", "generalcategory"] then category? value
  else if isNamed ["sc", "script"] then row? scriptTable value
  else if isNamed ["scx", "scriptextensions"] then row? scriptExtensionTable value
  else if isNamed ["age"] then edition? value
  else if isNamed ["gcb", "graphemeclusterbreak"] then row? characterBreakTable value
  else if isNamed ["wb", "wordbreak"] then row? wordBreakTable value
  else if isNamed ["sb", "sentencebreak"] then row? sentenceBreakTable value
  else none

/-! ## Sets used by themselves -/

/-- The decimal digits of every script. -/
def decimals : CodeSet := categories ["nd"]

/-- The code points with the property Alphabetic. -/
def alphabetics : CodeSet := (row? binaryTable "alphabetic").getD ⟨#[]⟩

/-- The characters of words: alphabetic characters, marks, decimal digits, connectors and the two joiners. -/
def wordChars : CodeSet :=
  CodeSet.union [alphabetics, categories ["mn", "mc", "me", "nd", "pc"], CodeSet.ofIntervals [(0x200C, 0x200D)]]

/-- Numbers of every kind. -/
def numbers : CodeSet := categories ["nd", "nl", "no"]

/-- The blanks. -/
def blanks : CodeSet := CodeSet.ofIntervals blankIntervals

end DependencyEvidence.Unicode
