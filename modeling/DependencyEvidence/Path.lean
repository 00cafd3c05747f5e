import DependencyEvidence.Text.Runs

/-!
# Paths

Paths of a file system that separates names by a slash. A path keeps its spelling; what counts is its list of
components, in which repeated slashes and inner dots are gone.

* `Path.components` and `Path.fileName?` read a path, `Path.parent?` shortens it, `Path.join` extends it.
* `Path.samePlace` compares components, and not spellings.
-/

namespace DependencyEvidence

/-- A path, as it is spelled. -/
structure Path where
  text : String
deriving DecidableEq, Repr, Inhabited

/-- One step of a path. -/
inductive PathComponent where
  /-- The root, from which an absolute path starts. -/
  | root
  /-- The dot that a relative path may start with. -/
  | here
  /-- Two dots. -/
  | up
  /-- A name. -/
  | name (text : List Char)
deriving DecidableEq, Repr

namespace Path

/-! ## Components -/

/-- Whether the path starts at the root. -/
def isAbsolute (p : Path) : Bool := p.text.toList.head? == some '/'

/-- What stands before the names: the slash of an absolute path, or the dot that a relative path starts with. -/
def lead (p : Path) : List Char :=
  match p.text.toList with
  | '/' :: _ => ['/']
  | ['.'] => ['.']
  | '.' :: '/' :: _ => ['.']
  | _ => []

/-- What stands between the slashes after the lead. -/
def segments (p : Path) : List (List Char) := Text.pieces '/' (p.text.toList.drop p.lead.length)

/-- Whether a segment names nothing. -/
def isIdle (segment : List Char) : Bool := segment = [] || segment = ['.']

/-- The component that a segment stands for. -/
def componentOf (segment : List Char) : PathComponent := if segment = ['.', '.'] then .up else .name segment

/-- The steps of a path. -/
def components (p : Path) : List PathComponent :=
  let start := match p.lead with
    | ['/'] => [PathComponent.root]
    | ['.'] => [.here]
    | _ => []
  start ++ (p.segments.filter (!isIdle ·)).map componentOf

/-- Whether two paths have the same components. -/
def samePlace (p q : Path) : Bool := p.components == q.components

/-! ## Parts of a path -/

/-- The name at the end of a path. -/
def fileName? (p : Path) : Option String :=
  match p.segments.reverse.dropWhile isIdle with
  | last :: _ => if last = ['.', '.'] then none else some (String.ofList last)
  | [] => none

/-- The path without its last component, spelled as before. -/
def parent? (p : Path) : Option Path :=
  match p.segments.reverse.dropWhile isIdle with
  | _ :: before => some ⟨String.ofList (p.lead ++ Text.joined '/' (before.dropWhile isIdle).reverse)⟩
  | [] => if p.lead = ['.'] then some ⟨""⟩ else none

/-- The name of the directory that holds what the path names. -/
def parentName? (p : Path) : Option String := p.parent?.bind fileName?

/-- The path that a name, or another path, leads to from here. An absolute path leads away. -/
def join (p : Path) (step : String) : Path :=
  if step.toList.head? == some '/' then ⟨step⟩
  else match p.text.toList.getLast? with
    | none | some '/' => ⟨p.text ++ step⟩
    | _ => ⟨p.text ++ "/" ++ step⟩

end Path

end DependencyEvidence
