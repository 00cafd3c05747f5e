import DependencyEvidence.Regex.Escape

/-!
# Bracketed classes

Classes in brackets: characters, ranges, shorthands, named classes of ASCII and further brackets, joined by union and by
the operators `&&`, `--` and `~~`, which bind more weakly than union and group to the left.

Open brackets are held in a list, and every class comes with the depth of its nesting, which patterns limit.
-/

namespace DependencyEvidence.Regex

/-- A class with the depth of its nesting. -/
structure NestedClass where
  set : CharClass
  depth : Nat

namespace NestedClass

/-- The union of classes, which nests them unless it is a single one. -/
def union (parts : List NestedClass) : NestedClass :=
  match parts with
  | [] => ⟨.empty, 0⟩
  | [p] => p
  | parts => ⟨.unions (parts.map (·.set)), (parts.foldl (fun d p => max d p.depth) 0) + 1⟩

/-- A single character. -/
def single (c : Char) : NestedClass := ⟨.single c, 0⟩

end NestedClass

/-! ## Operators -/

/-- The operators between classes. -/
inductive ClassOperator where
  | inter
  | difference
  | symmetricDifference
deriving DecidableEq, Repr

namespace ClassOperator

/-- The class that an operator gives. Case is settled before. -/
def apply (f : Flags) (o : ClassOperator) (a b : NestedClass) : NestedClass :=
  let combine := match o with
    | inter => CharClass.inter
    | difference => CharClass.difference
    | symmetricDifference => CharClass.symmetricDifference
  ⟨combine (f.withCases a.set) (f.withCases b.set), max a.depth b.depth + 1⟩

/-- Takes an operator, if one comes next. -/
def accept? : Scan (Option ClassOperator) :=
  Scan.acceptOne [("&&", inter), ("--", difference), ("~~", symmetricDifference)]

end ClassOperator

/-! ## Open brackets -/

/-- An open bracket: whether its complement is meant, the left side of an operator that waits for its right side, and
the parts of the union that is being read, the last one first. -/
structure Bracket where
  negated : Bool
  left : Option (ClassOperator × NestedClass)
  parts : List NestedClass

namespace Bracket

/-- Adds a part. -/
def push (b : Bracket) (p : NestedClass) : Bracket := { b with parts := p :: b.parts }

/-- What has been read so far as one class. -/
def joined (f : Flags) (b : Bracket) : NestedClass :=
  let right := NestedClass.union b.parts.reverse
  match b.left with
  | some (o, left) => o.apply f left right
  | none => right

/-- Starts the right side of an operator. -/
def operate (f : Flags) (b : Bracket) (o : ClassOperator) : Bracket :=
  { b with left := some (o, b.joined f), parts := [] }

/-- The class of a bracket that is closed. -/
def close? (f : Flags) (b : Bracket) : Option NestedClass := do
  let inner := b.joined f
  some ⟨← f.withSign? b.negated (f.withCases inner.set), inner.depth + 1⟩

/-- Reads what may open a bracket: the sign, then hyphens that stand for themselves, or a closing bracket that does. -/
def opening (f : Flags) : Scan Bracket := do
  skipBlanks f
  let negated ← Scan.accept "^"
  skipBlanks f
  let hyphens ← takeSpaced f (· == '-')
  let b : Bracket := ⟨negated, none, hyphens.map NestedClass.single⟩
  if hyphens.isEmpty && (← Scan.peek) == some ']' then
    let _ ← Scan.next
    return b.push (.single ']')
  else return b

end Bracket

/-! ## Parts -/

/-- The named classes of ASCII. -/
def asciiClasses : List (String × List (Char × Char)) :=
  [("alnum", [('0', '9'), ('A', 'Z'), ('a', 'z')]),
   ("alpha", [('A', 'Z'), ('a', 'z')]),
   ("ascii", [('\x00', '\x7f')]),
   ("blank", [('\t', '\t'), (' ', ' ')]),
   ("cntrl", [('\x00', '\x1f'), ('\x7f', '\x7f')]),
   ("digit", [('0', '9')]),
   ("graph", [('!', '~')]),
   ("lower", [('a', 'z')]),
   ("print", [(' ', '~')]),
   ("punct", [('!', '/'), (':', '@'), ('[', '\x60'), ('\x7b', '~')]),
   ("space", [('\t', '\r'), (' ', ' ')]),
   ("upper", [('A', 'Z')]),
   ("word", [('0', '9'), ('A', 'Z'), ('_', '_'), ('a', 'z')]),
   ("xdigit", [('0', '9'), ('A', 'F'), ('a', 'f')])]

/-- What spells a named class behind a bracket, with the class: whether its complement is meant, and its intervals. -/
def asciiSpellings : List (String × Bool × List (Char × Char)) :=
  asciiClasses.flatMap fun (name, intervals) =>
    [(":" ++ name ++ ":]", false, intervals), (":^" ++ name ++ ":]", true, intervals)]

/-- The class of a spelling, if there is one. -/
def spelledClass (f : Flags) : Option (Bool × List (Char × Char)) → Scan (Option NestedClass)
  | none => return none
  | some (negated, intervals) =>
    return some ⟨← Scan.present (f.withSign? negated (f.withCases (.ofIntervals intervals))), 0⟩

/-- The named class that comes next, in the form `:name:]` or `:^name:]` behind a bracket. What has another form is
left alone. -/
def asciiClass? (f : Flags) : Scan (Option NestedClass) := do spelledClass f (← Scan.acceptOne asciiSpellings)

/-- Refuses a character beyond ASCII where classes hold bytes. -/
def elementCharacter (f : Flags) (c : Char) : Scan Char := if !f.unicode && 0x7F < c.toNat then failure else pure c

/-- The element that an escape stands for. -/
def escapedElement (f : Flags) : Escape → Scan (Char ⊕ CharClass)
  | .character c => return .inl (← elementCharacter f c)
  | .class set => return .inr set
  | .assertion _ => failure

/-- One element of a bracket: a character or a class. -/
def element (f : Flags) : Scan (Char ⊕ CharClass) := do
  if ← Scan.accept "\\" then escapedElement f (← escape f)
  else return .inl (← elementCharacter f (← Scan.next))

/-- The class of an element. -/
def NestedClass.ofElement : Char ⊕ CharClass → NestedClass
  | .inl c => .single c
  | .inr set => ⟨set, 0⟩

/-- The class of a range, which runs between characters in their order. -/
def range? : Char ⊕ CharClass → Char ⊕ CharClass → Option NestedClass
  | .inl lo, .inl hi => if lo ≤ hi then some ⟨.interval lo hi, 0⟩ else none
  | _, _ => none

/-- What follows blanks and the mark of a comment. -/
def pastMark (text : List Char) : List Char :=
  match text.dropWhile Unicode.isBlank with
  | '#' :: comment => comment.dropWhile Unicode.isBlank
  | rest => rest

/-- The character that follows a hyphen, which decides whether the hyphen makes a range. In verbose patterns blanks and
the mark of a comment are passed over, unless nothing else follows. -/
def afterHyphen (f : Flags) (text : List Char) : Option Char :=
  if !f.verbose then text.head? else (pastMark text).head?.or text.head?

/-- Whether a text goes on with a hyphen that makes a range. -/
def goesOnToRange (f : Flags) : List Char → Bool
  | '-' :: more => afterHyphen f more != some ']' && afterHyphen f more != some '-'
  | _ => false

/-- Reads an element or a range. -/
def elementOrRange (f : Flags) : Scan NestedClass := do
  let first ← element f
  skipBlanks f
  if goesOnToRange f (← get) then
    let _ ← Scan.next
    skipBlanks f
    Scan.present (range? first (← element f))
  else return .ofElement first

/-! ## Brackets -/

/-- Adds a named class to the innermost bracket, or opens another one in it. -/
def Bracket.enter (f : Flags) (b : Bracket) (outer : List Bracket) : Option NestedClass → Scan (Bracket × List Bracket)
  | some p => return (b.push p, outer)
  | none => return (← Bracket.opening f, b :: outer)

/-- Closes the innermost bracket. -/
def Bracket.closing? (f : Flags) (b : Bracket) (outer : List Bracket) :
    Option (Scan.Step (Bracket × List Bracket) NestedClass) := do
  let p ← b.close? f
  match outer with
  | [] => some (.stop p)
  | next :: outer => some (.again (next.push p, outer))

/-- Applies an operator to the innermost bracket, or adds an element or a range to it. -/
def Bracket.extend (f : Flags) (b : Bracket) : Option ClassOperator → Scan Bracket
  | some o => return b.operate f o
  | none => return b.push (← elementOrRange f)

/-- Reads a class behind its opening bracket, up to its end. -/
def bracket (f : Flags) : Scan NestedClass := do
  let first ← Bracket.opening f
  Scan.iterate step (first, [])
where
  /-- Takes one part of the innermost bracket, or closes it. -/
  step (s : Bracket × List Bracket) : Scan (Scan.Step (Bracket × List Bracket) NestedClass) := do
    skipBlanks f
    if ← Scan.accept "[" then return .again (← s.1.enter f s.2 (← asciiClass? f))
    else if ← Scan.accept "]" then Scan.present (s.1.closing? f s.2)
    else return .again (← s.1.extend f (← ClassOperator.accept?), s.2)

end DependencyEvidence.Regex
