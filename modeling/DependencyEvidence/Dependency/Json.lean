import DependencyEvidence.Dependency.Basic
import DependencyEvidence.Json.Printer
import DependencyEvidence.Json.Reader

/-!
# Dependencies as JSON

The records of dependencies as JSON values. `toJson` writes every field. `ofJson?` reads objects and arrays of fields,
ignores unknown names, and lets all fields of a dependency but its path be absent.

Readers take the number of levels of nesting that are left. A container takes one, and what is ignored takes none.
-/

namespace DependencyEvidence

/-- How many containers may be nested in a document. -/
def nestingLimit : Nat := 127

/-! ## Evidence -/

/-- The value of a required field, if it is a text. -/
def requiredText? (fields : List (String × Json)) (name : String) : Option String :=
  (fields.lookup name).bind Json.text?

/-- A text field that may be absent. -/
def textOr? (fields : List (String × Json)) (name default : String) : Option String :=
  match fields.lookup name with
  | none => some default
  | some v => v.text?

/-- A field that may be absent or null. -/
def optionalText? (fields : List (String × Json)) (name : String) : Option (Option String) :=
  match fields.lookup name with
  | none | some .null => some none
  | some v => v.text?.map some

namespace Confidence

/-- Reads the name of a confidence. -/
def ofJson? (levels : Nat) (v : Json) : Option Confidence := (v.tag? levels).bind named?

end Confidence

namespace Evidence

/-- The fields of an observation. -/
def fieldNames : List String := ["source", "name", "value", "confidence"]

/-- An observation as a value. -/
def toJson (e : Evidence) : Json :=
  .record [("source", .ofText e.source), ("name", .ofText e.name), ("value", .ofText e.value),
    ("confidence", .ofText e.confidence.name)]

/-- Reads an observation. -/
def ofJson? : Nat → Json → Option Evidence
  | 0, _ => none
  | levels + 1, v => do
    let fields ← v.fields? fieldNames
    some {
      source := ← requiredText? fields "source"
      name := ← requiredText? fields "name"
      value := ← requiredText? fields "value"
      confidence := ← (← fields.lookup "confidence") |> Confidence.ofJson? levels }

end Evidence

namespace Collection

/-- A collection as a value. -/
def toJson (c : Collection) : Json := .array (c.entries.map Evidence.toJson)

/-- Reads a collection, adding one observation after another. -/
def ofJson? : Nat → Json → Option Collection
  | levels + 1, .array items => (items.mapM (Evidence.ofJson? levels)).map ofList
  | _, _ => none

end Collection

/-! ## Dependencies -/

/-- A collection that may be absent. -/
def collectionOr? (levels : Nat) (fields : List (String × Json)) (name : String) : Option Collection :=
  match fields.lookup name with
  | none => some .empty
  | some v => Collection.ofJson? levels v

/-- References that may be absent. -/
def referencesOr? (levels : Nat) (fields : List (String × Json)) (name : String) : Option References :=
  match fields.lookup name, levels with
  | none, _ => some .empty
  | some (.array items), _ + 1 => (items.mapM Json.text?).map .ofList
  | _, _ => none

/-- An ecosystem that may be absent. -/
def ecosystemOr? (levels : Nat) (fields : List (String × Json)) (name : String) : Option Ecosystem :=
  match fields.lookup name with
  | none => some .unknown
  | some v => (v.tag? levels).map .ofTag

namespace FileRecord

/-- Reads the fields of a file. -/
def ofFields? (levels : Nat) (fields : List (String × Json)) : Option FileRecord := do
  some {
    filePath := ⟨← requiredText? fields "file_path"⟩
    actualPath := ⟨← textOr? fields "actual_file_path" ""⟩
    fileName := ← textOr? fields "file_name" ""
    sha256 := ← textOr? fields "sha256" ""
    ecosystem := ← ecosystemOr? levels fields "ecosystem"
    packagePath := ← optionalText? fields "package_path"
    name := ← optionalText? fields "name"
    vendor := ← collectionOr? levels fields "vendor"
    product := ← collectionOr? levels fields "product"
    version := ← collectionOr? levels fields "version"
    references := ← referencesOr? levels fields "project_references" }

end FileRecord

namespace Dependency

/-- The fields of a dependency, in order. -/
def fieldNames : List String :=
  ["file_path", "actual_file_path", "file_name", "sha256", "ecosystem", "package_path", "name", "vendor", "product",
   "version", "related_dependencies", "project_references"]

mutual

/-- The fields of a dependency with their values. -/
def members : Dependency → List (String × Json)
  | ⟨file, related⟩ =>
    [("file_path", .ofText file.filePath.text), ("actual_file_path", .ofText file.actualPath.text),
     ("file_name", .ofText file.fileName), ("sha256", .ofText file.sha256), ("ecosystem", .ofText file.ecosystem.tag),
     ("package_path", .ofText? file.packagePath), ("name", .ofText? file.name), ("vendor", file.vendor.toJson),
     ("product", file.product.toJson), ("version", file.version.toJson),
     ("related_dependencies", .array (values related)),
     ("project_references", .array (file.references.names.map .ofText))]

/-- Dependencies as values. -/
def values : List Dependency → List Json
  | [] => []
  | d :: rest => .record d.members :: values rest

end

/-- A dependency as a value. -/
def toJson (d : Dependency) : Json := .record d.members

/-- Reads a dependency. -/
def ofJson? : Nat → Json → Option Dependency
  | 0, _ => none
  | levels + 1, v => do
    let fields ← v.fields? fieldNames
    let file ← FileRecord.ofFields? levels fields
    let related ← match fields.lookup "related_dependencies", levels with
      | none, _ => some []
      | some (.array items), inner + 1 => items.mapM (ofJson? inner)
      | _, _ => none
    some { file with related }

/-- Reads a document that is an array of dependencies, and fills in what they leave out. -/
def parseAll? (text : String) : Option (List Dependency) := do
  match ← Json.parse? text with
  | .array items => (← items.mapM (ofJson? (nestingLimit - 1))).map normalized
  | _ => none

end Dependency

end DependencyEvidence
