/-!
# Ecosystems

The package ecosystem in which a dependency was recognised, with its tag in documents (`tag`, `ofTag`) and its name for
readers (`title`).
-/

namespace DependencyEvidence

/-- A package ecosystem. -/
inductive Ecosystem where
  | ruby
  | swift
  | cocoaPods
  | java
  | node
  | python
  | rust
  | dotNet
  | unknown
deriving DecidableEq, Repr, Inhabited

namespace Ecosystem

/-- The tag of an ecosystem. -/
def tag : Ecosystem → String
  | ruby => "ruby"
  | swift => "swift"
  | cocoaPods => "cocoapods"
  | java => "java"
  | node => "node"
  | python => "python"
  | rust => "rust"
  | dotNet => "dotnet"
  | unknown => "unknown"

/-- The name of an ecosystem. -/
def title : Ecosystem → String
  | ruby => "Ruby"
  | swift => "Swift"
  | cocoaPods => "CocoaPods"
  | java => "Java"
  | node => "Node"
  | python => "Python"
  | rust => "Rust"
  | dotNet => ".NET"
  | unknown => "Unknown"

/-- All ecosystems. -/
def all : List Ecosystem := [ruby, swift, cocoaPods, java, node, python, rust, dotNet, unknown]

/-- The ecosystem with this tag. A tag that nothing has stands for an unknown ecosystem. -/
def ofTag (text : String) : Ecosystem := (all.find? (·.tag = text)).getD unknown

theorem ofTag_tag (e : Ecosystem) : ofTag e.tag = e := by cases e <;> decide

end Ecosystem

end DependencyEvidence
