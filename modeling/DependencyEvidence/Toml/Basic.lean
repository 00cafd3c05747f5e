/-!
# TOML values

The tree of a TOML document, and the rules by which keys and headers may add to a table.

* `Toml.within` leads a change to the table at the end of a path, and makes the tables on the way that are missing.
* `Toml.define` puts a value under a key, `Toml.openTable` and `Toml.openElement` make way for what follows a header.

A table remembers how it came to be (`Origin`), because that decides how it may be extended.
-/

namespace DependencyEvidence

/-- How a table came to be. -/
inductive Toml.Origin where
  /-- It has a header of its own, or is the document. -/
  | header
  /-- It lies on the path of a header. -/
  | implied
  /-- It lies on the path of a dotted key. -/
  | dotted
deriving DecidableEq, Repr

/-- A TOML value. Numbers with a fraction and times are recognised, and what they say is not kept. -/
inductive Toml where
  | text (content : String)
  | integer (value : Int)
  | float
  | bool (value : Bool)
  | time
  | array (items : List Toml)
  /-- A table that nothing can extend. -/
  | inline (entries : List (String × Toml))
  | table (origin : Toml.Origin) (entries : List (String × Toml))
  /-- Tables that headers have added one after another. -/
  | tables (elements : List Toml)
deriving Inhabited

namespace Toml

/-- The empty document. -/
def document : Toml := .table .header []

/-- Replaces the value of a key. -/
def replace (key : String) (v : Toml) (entries : List (String × Toml)) : List (String × Toml) :=
  entries.map fun e => if e.1 = key then (key, v) else e

/-- Changes the table that a path leads to. The path is that of a dotted key or of a header. A dotted key does not lead
into tables that have headers, and a path leads into the last one of several tables. -/
def within (byKey : Bool) (change : Toml → Option Toml) : List String → Toml → Option Toml
  | [], t => change t
  | key :: path, .table origin entries =>
    match entries.lookup key with
    | none => do
      let t ← within byKey change path (.table (if byKey then .dotted else .implied) [])
      some (.table origin (entries ++ [(key, t)]))
    | some (.table inner more) =>
      if byKey ∧ inner = .header then none
      else do
        let t ← within byKey change path (.table inner more)
        some (.table origin (replace key t entries))
    | some (.tables elements) => do
      let t ← within byKey change path (← elements.getLast?)
      some (.table origin (replace key (.tables (elements.dropLast ++ [t])) entries))
    | some _ => none
  | _, _ => none

/-- Puts a value under a key. The path before the key leads to a table that dotted keys have made, and no path to one
that they have not. -/
def define (path : List String) (key : String) (v : Toml) : Toml → Option Toml :=
  within true (fun t => match t with
    | .table origin entries =>
      if (origin == .dotted) == path.isEmpty || (entries.lookup key).isSome then none
      else some (.table origin (entries ++ [(key, v)]))
    | _ => none) path

/-- Makes the table of a header. It may be there only as part of other headers' paths. -/
def openTable (path : List String) (key : String) : Toml → Option Toml :=
  within false (fun t => match t with
    | .table origin entries =>
      match entries.lookup key with
      | none => some (.table origin (entries ++ [(key, .table .header [])]))
      | some (.table .implied more) => some (.table origin (replace key (.table .header more) entries))
      | some _ => none
    | _ => none) path

/-- Adds a table to those of a header with double brackets. -/
def openElement (path : List String) (key : String) : Toml → Option Toml :=
  within false (fun t => match t with
    | .table origin entries =>
      match entries.lookup key with
      | none => some (.table origin (entries ++ [(key, .tables [.table .header []])]))
      | some (.tables elements) =>
        some (.table origin (replace key (.tables (elements ++ [.table .header []])) entries))
      | some _ => none
    | _ => none) path

/-! ## Records -/

/-- A record's fields by name. A record is a table, or an array of the first fields in order. A time is a record
without fields. -/
def fields? (names : List String) : Toml → Option (List (String × Toml))
  | .inline entries => some entries
  | .table _ entries => some entries
  | .array items => some (names.zip items)
  | .tables elements => some (names.zip elements)
  | .time => some []
  | _ => none

/-- A truth value. -/
def bool? : Toml → Option Bool
  | .bool b => some b
  | _ => none

/-- A text. -/
def text? : Toml → Option String
  | .text content => some content
  | _ => none

/-- A number that is not negative. -/
def natural? : Toml → Option Nat
  | .integer (.ofNat n) => some n
  | _ => none

end Toml

end DependencyEvidence
