import DependencyEvidence.Dependency.Json
import DependencyEvidence.Text.SearchField

/-!
# Reports

The dependencies of a run together with the terms under which their vendors and products are found, as a document.
-/

namespace DependencyEvidence

/-- A dependency with its search terms. -/
structure Resolved where
  dependency : Dependency
  vendorTerms : List String
  productTerms : List String

namespace Resolved

/-- Finds the terms of a dependency. -/
def ofDependency (a : SearchField) (d : Dependency) : Resolved × SearchField :=
  let (vendorTerms, a) := a.terms (d.vendor.text .low)
  let (productTerms, a) := a.terms (d.product.text .low)
  ({ dependency := d, vendorTerms, productTerms }, a)

/-- Finds the terms of dependencies, one after another with one analyzer. -/
def ofDependencies (a : SearchField) : List Dependency → List Resolved
  | [] => []
  | d :: rest =>
    let (r, a) := ofDependency a d
    r :: ofDependencies a rest

/-- A record as a value: the dependency's fields, and the terms behind them. -/
def toJson (r : Resolved) : Json :=
  .record (r.dependency.members ++
    [("vendor_terms", .array (r.vendorTerms.map .ofText)), ("product_terms", .array (r.productTerms.map .ofText))])

end Resolved

/-- The document about the dependencies of a run. -/
def report (dependencies : List Dependency) : String :=
  (Json.array ((Resolved.ofDependencies .new dependencies).map Resolved.toJson)).render

end DependencyEvidence
