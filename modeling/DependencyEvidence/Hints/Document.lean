import DependencyEvidence.Hints.Rule
import DependencyEvidence.Xml.Attribute

/-!
# Documents of hint rules

Rules are written in XML: a root `hints` with elements `hint` and `vendorDuplicatingHint`; in a `hint` the parts
`given`, `add` and `remove`; in a part elements `evidence`, and in `given` also `fileName`. Namespaces do not count.

* `Draft.open?` and `Draft.close` take one tag. A draft does not hold the open elements: it knows whether the root has
  been seen, counts the open elements in 32 bits, and knows the rule and the part that are being read.
* `RuleSet.ofReading` takes the tags of a document up to the first fault, and `RuleSet.ofText` reads a document.
-/

namespace DependencyEvidence

/-! ## Faults -/

/-- What makes a document of well-formed tags invalid. -/
inductive RuleFault where
  | wrongRoot (tag : String)
  | missingRoot
  | unexpectedElement (tag : String)
  | missingAttribute (element key : String)
  | noFlag (key found : String)
  | unknownWord (error : WordError)
  | missingConfidence
deriving DecidableEq, Repr

/-- What is said about the fault. -/
def RuleFault.message : RuleFault → String
  | .wrongRoot tag => "expected <hints> root element, found <" ++ tag ++ ">"
  | .missingRoot => "missing <hints> root element"
  | .unexpectedElement tag => "unexpected element <" ++ tag ++ ">"
  | .missingAttribute element key => "<" ++ element ++ "> is missing the '" ++ key ++ "' attribute"
  | .noFlag key found => "'" ++ key ++ "' must be true or false, found '" ++ found ++ "'"
  | .unknownWord error => error.message
  | .missingConfidence => "<evidence> inside <add> requires a confidence"

/-- Why a document cannot be read. -/
inductive DocumentError where
  /-- It is no XML, or it ends too early. -/
  | malformed
  | invalid (fault : RuleFault)
  | unsupportedVersion (version : String)
  /-- A pattern is no regular expression. -/
  | pattern (value : String)
deriving DecidableEq, Repr

/-! ## Attributes -/

open Xml (Attributes Tag)

/-- The attributes of a tag. -/
def attributesOf (t : Tag) : Except DocumentError Attributes :=
  match t.attributes? with
  | some a => .ok a
  | none => .error .malformed

/-- The value of an attribute that has to be there. -/
def required (attributes : Attributes) (key element : String) : Except DocumentError String :=
  match attributes.get? key with
  | some value => .ok value
  | none => .error (.invalid (.missingAttribute element key))

/-- The value of an attribute that is true or false, and false if it is absent. -/
def flag (attributes : Attributes) (key : String) : Except DocumentError Bool :=
  match attributes.get? key with
  | none => .ok false
  | some value =>
    let word := String.ofList ((Unicode.trim value.toList).map Char.toLower)
    if word = "true" then .ok true
    else if word = "false" then .ok false
    else .error (.invalid (.noFlag key word))

/-- A word that is read, as an attribute. -/
def wordOf {α : Type} (word : Except WordError α) : Except DocumentError α :=
  word.mapError fun e => .invalid (.unknownWord e)

/-- The versions of the format that are understood. -/
def supportedVersions : List String := ["1"]

/-- Refuses a version of the format that is not understood. -/
def checkVersion (attributes : Attributes) : Except DocumentError Unit :=
  match attributes.get? "version" with
  | some version =>
    if supportedVersions.contains (Unicode.trimmed version) then .ok () else .error (.unsupportedVersion version)
  | none => .ok ()

/-! ## Elements -/

/-- The parts of a hint. -/
inductive Part where
  | given
  | add
  | remove
deriving DecidableEq, Repr

/-- Reads an observation and its axis. Outside `add` the confidence may be absent and does not matter. -/
def readEvidence (attributes : Attributes) (part : Part) : Except DocumentError (Axis × Evidence) := do
  let axis ← wordOf (Axis.ofText (← required attributes "type" "evidence"))
  let confidence ← match attributes.get? "confidence" with
    | some word => wordOf (Confidence.ofText word)
    | none => if part = .add then .error (.invalid .missingConfidence) else .ok .medium
  let source ← required attributes "source" "evidence"
  let name ← required attributes "name" "evidence"
  let value ← required attributes "value" "evidence"
  return (axis, { source, name, value, confidence })

/-- Reads a pattern. -/
def readPattern (attributes : Attributes) : Except DocumentError FilenamePattern := do
  let value ← required attributes "contains" "fileName"
  let caseSensitive ← flag attributes "caseSensitive"
  if ← flag attributes "regex" then
    match FilenamePattern.regex? value caseSensitive with
    | some p => return p
    | none => .error (.pattern value)
  else return .literal value caseSensitive

/-- Reads a duplication. -/
def readDuplication (attributes : Attributes) : Except DocumentError Duplication := do
  let value ← required attributes "value" "vendorDuplicatingHint"
  let duplicate ← required attributes "duplicate" "vendorDuplicatingHint"
  return { value, duplicate }

/-- Puts an observation into a part of a rule. -/
def HintRule.push (r : HintRule) (part : Part) (axis : Axis) (e : Evidence) : HintRule :=
  match part with
  | .given => { r with given := r.given.push axis e }
  | .add => { r with add := r.add.push axis e }
  | .remove => { r with remove := r.remove.push axis e }

/-! ## Drafts -/

/-- A document that is being read: the rules that are complete, whether the root has been seen, the count of the open
elements, which starts again behind the greatest number, and the rule and the part that are being read. -/
structure Draft where
  rules : RuleSet
  rootSeen : Bool
  depth : UInt32
  current : Option HintRule
  part : Option Part

namespace Draft

/-- The draft before the first tag. -/
def start : Draft := ⟨.empty, false, 0, none, none⟩

/-- Finishes what the end of an element finishes: a part, or a rule. -/
def finishElement (d : Draft) (name : String) : Draft :=
  if name = "given" ∨ name = "add" ∨ name = "remove" then { d with part := none }
  else if name = "hint" then
    match d.current with
    | some rule => { d with rules := { d.rules with rules := d.rules.rules ++ [rule] }, current := none }
    | none => d
  else d

/-- Takes an element within the root. -/
def enter (d : Draft) (t : Tag) : Except DocumentError Draft :=
  let name := Xml.localName t.name
  match name, d.current, d.part with
  | "hint", none, none => .ok { d with current := some .empty }
  | "given", some _, none => .ok { d with part := some .given }
  | "add", some _, none => .ok { d with part := some .add }
  | "remove", some _, none => .ok { d with part := some .remove }
  | "evidence", some rule, some part => do
    let (axis, e) ← readEvidence (← attributesOf t) part
    .ok { d with current := some (rule.push part axis e) }
  | "fileName", some rule, some .given => do
    let p ← readPattern (← attributesOf t)
    .ok { d with current := some { rule with patterns := rule.patterns ++ [p] } }
  | "vendorDuplicatingHint", none, none => do
    let r ← readDuplication (← attributesOf t)
    .ok { d with rules := { d.rules with duplications := d.rules.duplications ++ [r] } }
  | _, _, _ => .error (.invalid (.unexpectedElement name))

/-- Takes a start tag, or an empty element. The first one has to be the root. -/
def open? (d : Draft) (t : Tag) (isEmpty : Bool) : Except DocumentError Draft := do
  let name := Xml.localName t.name
  if d.rootSeen then
    let d ← d.enter t
    .ok (if isEmpty then d.finishElement name else { d with depth := d.depth + 1 })
  else if name = "hints" then
    checkVersion (← attributesOf t)
    .ok { d with rootSeen := true, depth := if isEmpty then d.depth else d.depth + 1 }
  else .error (.invalid (.wrongRoot name))

/-- The count of open elements behind the end of one. It does not fall below zero. -/
def shallower (depth : UInt32) : UInt32 := if depth = 0 then 0 else depth - 1

/-- Takes an end tag. -/
def close (d : Draft) (name : List Char) : Draft :=
  let d := d.finishElement (Xml.localName name)
  { d with depth := shallower d.depth }

/-- Takes an event. -/
def step (d : Draft) : Xml.Event → Except DocumentError Draft
  | .opened t => d.open? t false
  | .empty t => d.open? t true
  | .closed name => .ok (d.close name)

/-- The rules at the end of the document. -/
def finish (d : Draft) : Except DocumentError RuleSet :=
  if !d.rootSeen then .error (.invalid .missingRoot)
  else if d.depth ≠ 0 ∨ d.current.isSome then .error .malformed
  else .ok d.rules

end Draft

/-! ## Documents -/

namespace RuleSet

/-- The rules that the events of a document spell. A fault in the events themselves comes after them. -/
def ofReading (r : Xml.Reading) : Except DocumentError RuleSet := do
  let d ← r.events.foldlM Draft.step .start
  if r.complete then d.finish else .error .malformed

/-- Reads a document. -/
def ofText (text : String) : Except DocumentError RuleSet := ofReading (Xml.read text.toList)

end RuleSet

end DependencyEvidence
