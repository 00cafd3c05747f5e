import DependencyEvidence.Toml.Number
import DependencyEvidence.Toml.Text

/-!
# TOML documents

Values (`Toml.value`) and documents (`Toml.parse?`). A document is read line by line into one tree; the path of the last
header leads every key.
-/

namespace DependencyEvidence.Toml

/-! ## Values -/

/-- Reads an array behind its bracket, given how its items are read. -/
def arrayOf (item : Scan Toml) : Scan Toml :=
  Scan.iterate (fun (items : List Toml) => do
    skipLines
    if ← Scan.accept "]" then return .stop (.array items)
    let v ← item
    skipLines
    if ← Scan.accept "," then return .again (items ++ [v])
    Scan.character ']'
    return .stop (.array (items ++ [v]))) []

/-- Closes an inline table. -/
def closed : Toml → Toml
  | .table _ entries => .inline entries
  | t => t

/-- Reads an inline table behind its brace, given how its values are read. -/
def inlineOf (item : Scan Toml) : Scan Toml := do
  skipBlanks
  if ← Scan.accept "\x7d" then return .inline []
  Scan.iterate (fun (t : Toml) => do
    let (path, last) ← key
    Scan.character '='
    skipBlanks
    let v ← item
    skipBlanks
    match define path last v t with
    | none => failure
    | some t =>
      if ← Scan.accept "," then return .again t
      Scan.character '\x7d'
      return .stop (closed t)) document

/-- Reads a value in which nothing is nested. -/
def scalar : Scan Toml := do
  match ← Scan.peek with
  | some '"' | some '\'' => return .text (String.ofList (← anyText))
  | some 't' =>
    Scan.word "true"
    return .bool true
  | some 'f' =>
    Scan.word "false"
    return .bool false
  | some 'i' =>
    Scan.word "inf"
    return .float
  | some 'n' =>
    Scan.word "nan"
    return .float
  | _ => numberOrTime

/-- Reads a value. Arrays and inline tables may be nested so many levels deep. -/
def value : Nat → Scan Toml
  | 0 => scalar
  | levels + 1 => do
    if ← Scan.accept "[" then arrayOf (value levels)
    else if ← Scan.accept "\x7b" then inlineOf (value levels)
    else scalar

/-! ## Documents -/

/-- A document that is being read: its tree, and the path that leads to the table of the last header. -/
structure Draft where
  root : Toml
  path : List String

/-- Reads a header behind its first bracket. -/
def header (d : Draft) : Scan Draft := do
  let isElement ← Scan.accept "["
  let (path, last) ← key
  Scan.word (if isElement then "]]" else "]")
  restOfLine
  match (if isElement then openElement path last d.root else openTable path last d.root) with
  | some root => return ⟨root, path ++ [last]⟩
  | none => failure

/-- Reads a line with a key and its value. -/
def assignment (d : Draft) : Scan Draft := do
  let (path, last) ← key
  Scan.character '='
  skipBlanks
  let v ← value (depthLimit - 1)
  restOfLine
  match within false (define path last v) d.path d.root with
  | some root => return { d with root }
  | none => failure

/-- Takes a line. -/
def line (d : Draft) : Scan (Scan.Step Draft Toml) := do
  skipBlanks
  match ← Scan.peek with
  | none => return .stop d.root
  | some '[' =>
    let _ ← Scan.next
    return .again (← header d)
  | some '#' | some '\n' | some '\r' =>
    restOfLine
    return .again d
  | some _ => return .again (← assignment d)

/-- Reads a document, which may start with a byte order mark. -/
def parse? (text : String) : Option Toml := Scan.whole (do
  let _ ← Scan.accept "\ufeff"
  Scan.iterate line ⟨document, []⟩) text.toList

end DependencyEvidence.Toml
