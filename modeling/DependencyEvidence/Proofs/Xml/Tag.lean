import DependencyEvidence.Proofs.Text.Scan
import DependencyEvidence.Xml.Attribute
import Mathlib.Data.List.Nodup

/-!
# Written tags

A tag as it is written: a name, and attributes with blanks before them, each of which has a name and a value in quotes
(`TagText`). Values consist of characters and references (`Piece`). The types hold what is well formed only, so that
every written tag has the attributes that were written (`attributes?_text`, `TagText.attributes?_tag`):

* `unescape?_text`: references are replaced by the characters that they stand for;
* `nameAndValue_body`: the scanner of one attribute stops where the attribute ends;
* `attributesOf_text`: so repeating it gives all of them.
-/

namespace DependencyEvidence.Xml

/-! ## Names, blanks and values -/

/-- Whether a character may stand in a name. -/
def isNameChar (c : Char) : Bool := !isSpace c && !(['<', '>', '/', '=', '"', '\'', '!', '?', '&'].contains c)

/-- A written name. -/
structure Name where
  chars : List Char
  nonempty : chars ≠ []
  valid : ∀ c ∈ chars, isNameChar c = true

/-- A run of blanks, which may be empty. -/
structure Blanks where
  chars : List Char
  valid : ∀ c ∈ chars, isSpace c = true

/-- No blanks. -/
def Blanks.none : Blanks := ⟨[], by simp⟩

/-- What a value consists of: characters, and references between `&` and `;` that stand for characters. -/
inductive Piece where
  | plain (c : Char) (noReference : c ≠ '&')
  | reference (name : List Char) (c : Char) (known : resolve? name = some c) (closed : ∀ x ∈ name, x ≠ ';' ∧ x ≠ '&')

namespace Piece

/-- The piece as it is written. -/
def text : Piece → List Char
  | plain c _ => [c]
  | reference name _ _ _ => '&' :: (name ++ [';'])

/-- The character that the piece stands for. -/
def char : Piece → Char
  | plain c _ => c
  | reference _ c _ _ => c

end Piece

theorem unescapeFrom?_name {name : List Char} (h : ∀ x ∈ name, x ≠ ';' ∧ x ≠ '&') (read rest : List Char) :
    unescapeFrom? (some read) (name ++ rest) = unescapeFrom? (some (name.reverse ++ read)) rest := by
  induction name generalizing read with
  | nil => rfl
  | cons x more ih =>
    obtain ⟨⟨hend, hstart⟩, hmore⟩ := List.forall_mem_cons.1 h
    rw [List.cons_append, unescapeFrom?, if_neg hend, if_neg hstart, ih hmore, List.reverse_cons, List.append_assoc]
    rfl

/-- The references of a written value are replaced. -/
theorem unescape?_text (value : List Piece) : unescape? (value.flatMap Piece.text) = some (value.map Piece.char) := by
  suffices h : ∀ value : List Piece, unescapeFrom? none (value.flatMap Piece.text) = some (value.map Piece.char) from
    h value
  intro value
  induction value with
  | nil => rfl
  | cons p rest ih =>
    rw [List.flatMap_cons, List.map_cons]
    cases p with
    | plain c hc => rw [Piece.text, List.singleton_append, unescapeFrom?, if_neg hc, ih]; rfl
    | reference name c known closed =>
      rw [Piece.text, List.cons_append, List.append_assoc, unescapeFrom?, if_pos rfl, unescapeFrom?_name closed,
        List.append_nil, List.singleton_append, unescapeFrom?, if_pos rfl, List.reverse_reverse, known, ih]
      rfl

/-! ## Attributes -/

/-- A written attribute with the blanks before it. -/
structure AttributeText where
  lead : Blanks
  apart : lead.chars ≠ []
  name : Name
  before : Blanks
  behind : Blanks
  quote : Char
  isQuote : quote = '"' ∨ quote = '\''
  value : List Piece
  unquoted : ∀ p ∈ value, quote ∉ p.text

namespace AttributeText

/-- The value as it is written. -/
def raw (a : AttributeText) : List Char := a.value.flatMap Piece.text

/-- The attribute as it is written, behind the blanks before it. -/
def body (a : AttributeText) : List Char :=
  a.name.chars ++ (a.before.chars ++ '=' :: (a.behind.chars ++ a.quote :: (a.raw ++ [a.quote])))

/-- The attribute as it is written. -/
def text (a : AttributeText) : List Char := a.lead.chars ++ a.body

/-- The name without its namespace, and the value. -/
def pair (a : AttributeText) : String × String := (localName a.name.chars, String.ofList (a.value.map Piece.char))

end AttributeText

/-- A written tag. No two attributes have the same name without its namespace. -/
structure TagText where
  name : Name
  attributes : List AttributeText
  trail : Blanks
  distinct : (attributes.map fun a => localName a.name.chars).Nodup

namespace TagText

/-- The name without its namespace. -/
def localName (t : TagText) : String := Xml.localName t.name.chars

/-- The attributes, by their names without namespaces. -/
def pairs (t : TagText) : Attributes := t.attributes.map AttributeText.pair

/-- What stands behind the name. -/
def rest (t : TagText) : List Char := t.attributes.flatMap AttributeText.text ++ t.trail.chars

/-- The tag between `<` and `>`, or the end of an empty one. -/
def text (t : TagText) : List Char := t.name.chars ++ t.rest

/-- The tag that is read. -/
def tag (t : TagText) : Tag := ⟨t.name.chars, t.rest⟩

@[simp]
theorem localName_tag (t : TagText) : Xml.localName t.tag.name = t.localName := rfl

end TagText

/-! ## Scanning -/

section Scanning

variable {p : Char → Bool} {l rest : List Char}

theorem takeWhile_append_stop (hl : ∀ c ∈ l, p c = true) (hrest : ∀ c ∈ rest.head?, p c = false) :
    (l ++ rest).takeWhile p = l ∧ (l ++ rest).dropWhile p = rest := by
  rw [List.takeWhile_append_of_pos hl, List.dropWhile_append_of_pos hl]
  cases rest with
  | nil => simp
  | cons c more =>
    have hc : p c = false := hrest c rfl
    simp [hc]

theorem isSpace_of_isNameChar {c : Char} (h : isNameChar c = true) : isSpace c = false := by
  simp only [isNameChar, Bool.and_eq_true, Bool.not_eq_true'] at h
  exact h.1

theorem ne_of_isNameChar {c x : Char} (h : isNameChar c = true)
    (hx : x ∈ ['<', '>', '/', '=', '"', '\'', '!', '?', '&']) : c ≠ x := by
  rintro rfl
  simp only [isNameChar, Bool.and_eq_true, Bool.not_eq_true'] at h
  exact Bool.false_ne_true (h.2.symm.trans (List.contains_iff_mem.2 hx))

theorem skipWhile_append_stop (hl : ∀ c ∈ l, p c = true) (hrest : ∀ c ∈ rest.head?, p c = false) :
    Scan.skipWhile p (l ++ rest) = some ((), rest) := by
  rw [Scan.skipWhile, (takeWhile_append_stop hl hrest).2]

theorem scan_takeWhile_append_stop (hl : ∀ c ∈ l, p c = true) (hrest : ∀ c ∈ rest.head?, p c = false) :
    Scan.takeWhile p (l ++ rest) = some (l, rest) := by
  rw [Scan.takeWhile, (takeWhile_append_stop hl hrest).1, (takeWhile_append_stop hl hrest).2]

theorem satisfy_cons {c : Char} (hc : p c = true) : Scan.satisfy p (c :: rest) = some (c, rest) := by
  rw [Scan.satisfy, Scan.bind_of_some (show Scan.next (c :: rest) = some (c, rest) from rfl), if_pos hc]
  rfl

theorem character_cons (c : Char) (rest : List Char) : Scan.character c (c :: rest) = some ((), rest) := by
  rw [Scan.character, Scan.bind_of_some (satisfy_cons (by simp))]
  rfl

theorem quote_ne_space {q : Char} (h : q = '"' ∨ q = '\'') : isSpace q = false := by
  rcases h with rfl | rfl <;> decide

/-- The scanner of an attribute takes it as it is written. -/
theorem nameAndValue_body (a : AttributeText) (rest : List Char) :
    nameAndValue (a.body ++ rest) = some ((a.name.chars, a.raw), rest) := by
  obtain ⟨first, more, hname⟩ := List.exists_cons_of_ne_nil a.name.nonempty
  have hmore : ∀ c ∈ more, isNameChar c = true := fun c hc => a.name.valid c (hname ▸ List.mem_cons_of_mem _ hc)
  let tail := a.quote :: (a.raw ++ a.quote :: rest)
  have htext : a.body ++ rest = first :: (more ++ (a.before.chars ++ '=' :: (a.behind.chars ++ tail))) := by
    simp [AttributeText.body, hname, tail]
  rw [htext, nameAndValue, Scan.bind_of_some (show Scan.next (first :: _) = some (first, _) from rfl),
    Scan.bind_of_some (scan_takeWhile_append_stop ?_ ?_), Scan.bind_of_some (skipWhile_append_stop a.before.valid ?_),
    Scan.bind_of_some (character_cons '=' _), Scan.bind_of_some (skipWhile_append_stop a.behind.valid ?_),
    Scan.bind_of_some (satisfy_cons ?_), Scan.bind_of_some (scan_takeWhile_append_stop ?_ ?_),
    Scan.bind_of_some (character_cons a.quote rest)]
  · rw [hname]
    rfl
  · intro c hc
    obtain ⟨p, hp, hc⟩ := List.mem_flatMap.1 hc
    exact decide_eq_true fun he => a.unquoted p hp (he ▸ hc)
  · simp
  · exact decide_eq_true a.isQuote
  · simpa [tail] using quote_ne_space a.isQuote
  · simp [isSpace]
  · intro c hc
    have hsign : c ≠ '=' := ne_of_isNameChar (hmore c hc) (by simp)
    simp [hsign, isSpace_of_isNameChar (hmore c hc)]
  · -- behind the name stands a blank or the equals sign
    intro c hc
    cases hbefore : a.before.chars with
    | nil =>
      obtain rfl : '=' = c := by simpa [hbefore] using hc
      simp
    | cons x blanks =>
      obtain rfl : x = c := by simpa [hbefore] using hc
      have hx : isSpace x = true := a.before.valid x (hbefore ▸ List.mem_cons_self)
      simp [hx]

/-- What is repeated to read attributes. -/
def attributeStep (done : List (List Char × List Char)) :
    Scan (Scan.Step (List (List Char × List Char)) (List (List Char × List Char))) := do
  Scan.skipWhile isSpace
  if ← Scan.atEnd then return .stop done.reverse
  let a ← nameAndValue
  if (done.map (·.1)).contains a.1 then failure else return .again (a :: done)

theorem attributeStep_blanks (done : List (List Char × List Char)) (b : Blanks) :
    attributeStep done b.chars = some (.stop done.reverse, []) := by
  have hskip : Scan.skipWhile isSpace b.chars = some ((), []) := by
    have hend : ∀ c ∈ ([] : List Char).head?, isSpace c = false := by simp
    simpa using skipWhile_append_stop b.valid hend
  rw [attributeStep, Scan.bind_of_some hskip]
  rfl

theorem attributeStep_text (done : List (List Char × List Char)) (a : AttributeText) (rest : List Char)
    (hnew : a.name.chars ∉ done.map (·.1)) :
    attributeStep done (a.text ++ rest) = some (.again ((a.name.chars, a.raw) :: done), rest) := by
  obtain ⟨first, more, hname⟩ := List.exists_cons_of_ne_nil a.name.nonempty
  have hfirst : isSpace first = false := isSpace_of_isNameChar (a.name.valid first (hname ▸ List.mem_cons_self))
  have hbody : ∃ tail, a.body ++ rest = first :: tail := ⟨_, by rw [AttributeText.body, hname]; rfl⟩
  obtain ⟨tail, hbody⟩ := hbody
  have hskip : Scan.skipWhile isSpace (a.text ++ rest) = some ((), a.body ++ rest) := by
    rw [AttributeText.text, List.append_assoc]
    refine skipWhile_append_stop a.lead.valid fun c hc => ?_
    obtain rfl : first = c := by simpa [hbody] using hc
    exact hfirst
  have hend : Scan.atEnd (a.body ++ rest) = some (false, a.body ++ rest) := by
    rw [hbody]
    rfl
  rw [attributeStep, Scan.bind_of_some hskip, Scan.bind_of_some hend, if_neg Bool.false_ne_true,
    Scan.bind_of_some (nameAndValue_body a rest), if_neg (by simpa using hnew)]
  rfl

/-- Repeating the scanner gives all attributes. -/
theorem attributesOf_text {attributes : List AttributeText} (h : (attributes.map (·.name.chars)).Nodup)
    (trail : Blanks) :
    attributesOf (attributes.flatMap AttributeText.text ++ trail.chars) =
      some (attributes.map fun a => (a.name.chars, a.raw), []) := by
  suffices hall : ∀ (attributes : List AttributeText) (done : List (List Char × List Char)),
      (done.map (·.1) ++ attributes.map (·.name.chars)).Nodup →
        Scan.iterate attributeStep done (attributes.flatMap AttributeText.text ++ trail.chars) =
          some (done.reverse ++ attributes.map fun a => (a.name.chars, a.raw), []) from
    hall attributes [] h
  intro attributes
  induction attributes with
  | nil =>
    intro done _
    rw [Scan.iterate, List.flatMap_nil, List.nil_append, attributeStep_blanks]
    simp
  | cons a more ih =>
    intro done hdistinct
    rw [List.map_cons] at hdistinct
    have hnew : a.name.chars ∉ done.map (·.1) := fun hm =>
      (List.nodup_append.1 hdistinct).2.2 _ hm _ List.mem_cons_self rfl
    have hrest := ih ((a.name.chars, a.raw) :: done) (by
      simpa using (List.perm_middle.nodup_iff).1 hdistinct)
    have hshorter : ∀ rest : List Char, rest.length < (a.text ++ rest).length := by
      intro rest
      have := List.length_pos_iff.2 a.apart
      simp only [AttributeText.text, List.length_append]
      omega
    rw [Scan.iterate, List.flatMap_cons, List.append_assoc, attributeStep_text done a _ hnew]
    dsimp only
    rw [if_pos (hshorter _), hrest]
    simp

/-- Attributes are read as they are written if no two of them have the same full name. -/
theorem attributes?_text {attributes : List AttributeText} (h : (attributes.map (·.name.chars)).Nodup)
    (trail : Blanks) (name : List Char) :
    Tag.attributes? ⟨name, attributes.flatMap AttributeText.text ++ trail.chars⟩ =
      some (attributes.map AttributeText.pair) := by
  have hvalues : ∀ attributes : List AttributeText,
      (attributes.map fun a => (a.name.chars, a.raw)).mapM
          (fun a => (unescape? a.2).map fun value => (Xml.localName a.1, String.ofList value)) =
        some (attributes.map AttributeText.pair) := by
    intro attributes
    induction attributes with
    | nil => rfl
    | cons a more ih =>
      have hvalue : unescape? a.raw = some (a.value.map Piece.char) := unescape?_text a.value
      simp [hvalue, ih, AttributeText.pair]
  rw [Tag.attributes?, attributesOf_text h]
  exact hvalues attributes

/-- **A written tag has the attributes that were written.** -/
theorem TagText.attributes?_tag (t : TagText) : t.tag.attributes? = some t.pairs := by
  have hlocal : t.attributes.map (fun a => Xml.localName a.name.chars) =
      (t.attributes.map (·.name.chars)).map Xml.localName := by
    rw [List.map_map]
    rfl
  exact attributes?_text (List.Nodup.of_map _ (hlocal ▸ t.distinct)) t.trail t.name.chars

end Scanning

end DependencyEvidence.Xml
