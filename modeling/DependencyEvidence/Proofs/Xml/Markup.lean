import DependencyEvidence.Proofs.Xml.Elements
import DependencyEvidence.Proofs.Xml.Tag

/-!
# Written documents

A document as it is written (`Markup`): elements with their tags, and between the tags whatever is left out when a
document is read (`Aside`): characters, comments, character data, instructions, and document types. The types hold what
is well formed only.

* `Reader.foldl_aside`: an aside leaves the reader as it was.
* `Reader.Outside`, `Reader.follows_attributes`: a written tag ends at its `>` only, whatever its quotations hold.
* `Markup.exists_markup`: all elements can be written.
* `Markup.foldl_text`: a document gives its events, and leaves the open elements as they were.
* `Markup.read_text`, `Markup.spells_events`: it is read up to its end, and its events spell its elements.
-/

namespace DependencyEvidence.Xml

/-! ## Asides -/

/-- Whether a text closes every inner `<` with a `>`, and closes no other, where some are open already. -/
def closes : Nat → List Char → Bool
  | nested, [] => nested = 0
  | nested, c :: rest =>
    if c = '<' then closes (nested + 1) rest
    else if c = '>' then 0 < nested && closes (nested - 1) rest
    else closes nested rest

/-- What stands between tags. -/
inductive Aside where
  | characters (content : List Char) (noMarkup : '<' ∉ content)
  | comment (content : List Char) (goesOn : ¬ ['-', '-', '>'] <:+: content)
  | characterData (content : List Char) (goesOn : ¬ [']', ']', '>'] <:+: content)
  /-- An instruction, or the declaration that a document may start with. -/
  | instruction (content : List Char) (goesOn : ¬ ['?', '>'] <:+: '?' :: content)
  | documentType (content : List Char) (closed : closes 0 content = true) (named : content.any (!isSpace ·) = true)

/-- The aside as it is written. -/
def Aside.text : Aside → List Char
  | characters content _ => content
  | comment content _ => ['<', '!', '-', '-'] ++ (content ++ ['-', '-', '>'])
  | characterData content _ => ['<', '!', '[', 'C', 'D', 'A', 'T', 'A', '['] ++ (content ++ [']', ']', '>'])
  | instruction content _ => ['<', '?'] ++ (content ++ ['?', '>'])
  | documentType content _ _ => ['<', '!', 'D', 'O', 'C', 'T', 'Y', 'P', 'E'] ++ (content ++ ['>'])

namespace Reader

variable {done : List Event} {names : List (List Char)}

/-- A mode that ends at certain `>` takes a text in which none of these stands. -/
theorem foldl_until (mode : List Char → Mode) (ends : List Char → Prop)
    (hstep : ∀ content c, ¬ (c = '>' ∧ ends content) →
      advance ⟨done, names, mode content⟩ c = ⟨done, names, mode (c :: content)⟩)
    (text start : List Char) (h : ∀ before after, text = before ++ '>' :: after → ¬ ends (before.reverse ++ start)) :
    text.foldl advance ⟨done, names, mode start⟩ = ⟨done, names, mode (text.reverse ++ start)⟩ := by
  induction text generalizing start with
  | nil => rfl
  | cons c rest ih =>
    have hc : ¬ (c = '>' ∧ ends start) := by
      rintro ⟨rfl, hends⟩
      exact h [] rest rfl hends
    rw [List.foldl_cons, hstep start c hc, ih (c :: start), List.reverse_cons, List.append_assoc]
    · rfl
    · intro before after htext
      have := h (c :: before) after (by rw [htext]; rfl)
      rwa [List.reverse_cons, List.append_assoc] at this

/-- A text whose last two characters come first when it is reversed. -/
theorem exists_eq_append_of_reverse {l rest : List Char} {x y : Char} (h : l.reverse = y :: x :: rest) :
    l = rest.reverse ++ [x, y] := by
  rw [← List.reverse_reverse l, h]
  simp

theorem foldl_characters {content : List Char} (h : '<' ∉ content) :
    content.foldl advance ⟨done, names, .text⟩ = ⟨done, names, .text⟩ := by
  induction content with
  | nil => rfl
  | cons c rest ih =>
    rw [List.mem_cons, not_or] at h
    have hc : advance ⟨done, names, .text⟩ c = ⟨done, names, .text⟩ := if_neg (Ne.symm h.1)
    rw [List.foldl_cons, hc, ih h.2]

theorem foldl_comment {content : List Char} (h : ¬ ['-', '-', '>'] <:+: content) :
    content.foldl advance ⟨done, names, .comment ['-', '-']⟩ =
      ⟨done, names, .comment (content.reverse ++ ['-', '-'])⟩ := by
  refine foldl_until Mode.comment (fun kept => 4 ≤ kept.length ∧ kept.take 2 = ['-', '-']) (fun _ _ hc => if_neg hc)
    content _ fun before after htext => ?_
  rintro ⟨hlong, hdashes⟩
  -- the dashes of `<!--` are none of the two that end the comment
  match hbefore : before.reverse with
  | [] => simp [hbefore] at hlong
  | [_] => simp [hbefore] at hlong
  | y :: x :: rest =>
    obtain ⟨rfl, rfl⟩ : y = '-' ∧ x = '-' := by simpa [hbefore] using hdashes
    refine h ⟨rest.reverse, after, ?_⟩
    rw [htext, exists_eq_append_of_reverse hbefore]
    simp

theorem foldl_characterData {content : List Char} (h : ¬ [']', ']', '>'] <:+: content) :
    content.foldl advance ⟨done, names, .characterData "[CDATA[".toList.reverse⟩ =
      ⟨done, names, .characterData (content.reverse ++ "[CDATA[".toList.reverse)⟩ := by
  refine foldl_until Mode.characterData (fun kept => kept.take 2 = [']', ']']) (fun _ _ hc => if_neg hc) content _
    fun before after htext hbrackets => ?_
  match hbefore : before.reverse with
  | [] => simp [hbefore] at hbrackets
  | [_] => simp [hbefore] at hbrackets
  | y :: x :: rest =>
    obtain ⟨rfl, rfl⟩ : y = ']' ∧ x = ']' := by simpa [hbefore] using hbrackets
    refine h ⟨rest.reverse, after, ?_⟩
    rw [htext, exists_eq_append_of_reverse hbefore]
    simp

theorem foldl_instruction {content : List Char} (h : ¬ ['?', '>'] <:+: '?' :: content) :
    content.foldl advance ⟨done, names, .instruction ['?']⟩ =
      ⟨done, names, .instruction (content.reverse ++ ['?'])⟩ := by
  refine foldl_until Mode.instruction (fun kept => kept.head? = some '?') (fun _ _ hc => if_neg hc) content _
    fun before after htext hmark => ?_
  match hbefore : before.reverse with
  | [] =>
    obtain rfl : before = [] := List.reverse_eq_nil_iff.1 hbefore
    exact h ⟨[], after, by rw [htext]; rfl⟩
  | x :: rest =>
    obtain rfl : x = '?' := by simpa [hbefore] using hmark
    refine h ⟨'?' :: rest.reverse, after, ?_⟩
    rw [htext, ← List.reverse_reverse before, hbefore]
    simp

theorem foldl_documentType {content : List Char} {nested : Nat} (h : closes nested content = true)
    (start : List Char) :
    content.foldl advance ⟨done, names, .documentType start nested⟩ =
      ⟨done, names, .documentType (content.reverse ++ start) 0⟩ := by
  induction content generalizing nested start with
  | nil =>
    obtain rfl : nested = 0 := by simpa [closes] using h
    rfl
  | cons c rest ih =>
    have hstep : ∃ nested', closes nested' rest = true ∧
        advance ⟨done, names, .documentType start nested⟩ c = ⟨done, names, .documentType (c :: start) nested'⟩ := by
      rw [closes] at h
      by_cases hopen : c = '<'
      · subst hopen
        exact ⟨nested + 1, h, by simp [advance, into]⟩
      · by_cases hclose : c = '>'
        · subst hclose
          obtain ⟨hpos, h⟩ : 0 < nested ∧ closes (nested - 1) rest = true := by simpa using h
          exact ⟨nested - 1, h, by simp [advance, into, Nat.pos_iff_ne_zero.1 hpos]⟩
        · exact ⟨nested, by simpa [hopen, hclose] using h, by simp [advance, into, hopen, hclose]⟩
    obtain ⟨nested', hrest, hadvance⟩ := hstep
    rw [List.foldl_cons, hadvance, ih hrest]
    simp

/-- An aside leaves the reader as it was. -/
theorem foldl_aside (a : Aside) : a.text.foldl advance ⟨done, names, .text⟩ = ⟨done, names, .text⟩ := by
  cases a with
  | characters content noMarkup => exact foldl_characters noMarkup
  | comment content goesOn =>
    have hopen : ['<', '!', '-', '-'].foldl advance ⟨done, names, .text⟩ = ⟨done, names, .comment ['-', '-']⟩ := rfl
    rw [Aside.text, List.foldl_append, List.foldl_append, hopen, foldl_comment goesOn]
    simp [advance, into, leave]
  | characterData content goesOn =>
    have hopen : ['<', '!', '[', 'C', 'D', 'A', 'T', 'A', '['].foldl advance ⟨done, names, .text⟩ =
        ⟨done, names, .characterData "[CDATA[".toList.reverse⟩ := rfl
    rw [Aside.text, List.foldl_append, List.foldl_append, hopen, foldl_characterData goesOn]
    simp [advance, into, leave]
  | instruction content goesOn =>
    have hopen : ['<', '?'].foldl advance ⟨done, names, .text⟩ = ⟨done, names, .instruction ['?']⟩ := rfl
    rw [Aside.text, List.foldl_append, List.foldl_append, hopen, foldl_instruction goesOn]
    simp [advance, into, leave]
  | documentType content closed named =>
    have hopen : ['<', '!', 'D', 'O', 'C', 'T', 'Y', 'P', 'E'].foldl advance ⟨done, names, .text⟩ =
        ⟨done, names, .documentType "DOCTYPE".toList.reverse 0⟩ := rfl
    have hformed : (startsWith "DOCTYPE" ("DOCTYPE".toList ++ content) &&
        (("DOCTYPE".toList ++ content).drop 7).any (!isSpace ·)) = true := by
      have hword : startsWith "DOCTYPE" ("DOCTYPE".toList ++ content) = true := by
        rw [startsWith, List.map_append, show "DOCTYPE".toList.map Char.toUpper = "DOCTYPE".toList by decide]
        simp
      rw [hword, show ("DOCTYPE".toList ++ content).drop 7 = content from rfl, named]
      rfl
    rw [Aside.text, List.foldl_append, List.foldl_append, hopen, foldl_documentType closed, List.foldl_cons,
      List.foldl_nil, advance]
    dsimp only
    rw [if_pos ⟨rfl, rfl⟩, List.reverse_append, List.reverse_reverse, List.reverse_reverse, hformed]
    rfl

/-! ## Tags -/

/-- Whether a reader in a tag that takes a text stands outside of quotations again. -/
def Outside (text : List Char) : Prop :=
  ∀ (done : List Event) (names : List (List Char)) (content : List Char),
    text.foldl advance ⟨done, names, .tag content none⟩ = ⟨done, names, .tag (text.reverse ++ content) none⟩

theorem Outside.append {l m : List Char} (hl : Outside l) (hm : Outside m) : Outside (l ++ m) := by
  intro done names content
  rw [List.foldl_append, hl, hm, List.reverse_append, List.append_assoc]

theorem outside_of_forall {text : List Char} (h : ∀ c ∈ text, c ≠ '>' ∧ c ≠ '"' ∧ c ≠ '\'') : Outside text := by
  induction text with
  | nil => exact fun _ _ _ => rfl
  | cons c rest ih =>
    obtain ⟨⟨hend, hdouble, hsingle⟩, hrest⟩ := List.forall_mem_cons.1 h
    intro done names content
    have hc : advance ⟨done, names, .tag content none⟩ c = ⟨done, names, .tag (c :: content) none⟩ := by
      simp [advance, advanceTag, into, hend, hdouble, hsingle]
    rw [List.foldl_cons, hc, ih hrest, List.reverse_cons, List.append_assoc]
    rfl

theorem foldl_quotation {quote : Char} {text : List Char} (h : quote ∉ text) (content : List Char) :
    text.foldl advance ⟨done, names, .tag content (some quote)⟩ =
      ⟨done, names, .tag (text.reverse ++ content) (some quote)⟩ := by
  induction text generalizing content with
  | nil => rfl
  | cons c rest ih =>
    rw [List.mem_cons, not_or] at h
    have hc : advance ⟨done, names, .tag content (some quote)⟩ c =
        ⟨done, names, .tag (c :: content) (some quote)⟩ := by
      simp [advance, advanceTag, into, Ne.symm h.1]
    rw [List.foldl_cons, hc, ih h.2, List.reverse_cons, List.append_assoc]
    rfl

/-- A quotation may hold what would end the tag. -/
theorem outside_quotation {quote : Char} (hquote : quote = '"' ∨ quote = '\'') {text : List Char}
    (h : quote ∉ text) : Outside (quote :: (text ++ [quote])) := by
  intro done names content
  have hend : quote ≠ '>' := by rcases hquote with rfl | rfl <;> decide
  have hopen : advance ⟨done, names, .tag content none⟩ quote =
      ⟨done, names, .tag (quote :: content) (some quote)⟩ := by
    simp [advance, advanceTag, into, hend, hquote]
  have hclose : ∀ content, advance ⟨done, names, .tag content (some quote)⟩ quote =
      ⟨done, names, .tag (quote :: content) none⟩ := by
    simp [advance, advanceTag, into]
  rw [List.foldl_cons, hopen, List.foldl_append, foldl_quotation h, List.foldl_cons, List.foldl_nil, hclose]
  simp

theorem outside_blanks (b : Blanks) : Outside b.chars :=
  outside_of_forall fun c hc => by
    have hspace : isSpace c = true := b.valid c hc
    refine ⟨?_, ?_, ?_⟩ <;> rintro rfl <;> exact absurd hspace (by decide)

theorem outside_name (n : Name) : Outside n.chars :=
  outside_of_forall fun c hc =>
    ⟨ne_of_isNameChar (n.valid c hc) (by simp), ne_of_isNameChar (n.valid c hc) (by simp),
      ne_of_isNameChar (n.valid c hc) (by simp)⟩

theorem outside_attribute (a : AttributeText) : Outside a.text := by
  have hvalue : Outside (a.quote :: (a.raw ++ [a.quote])) := by
    refine outside_quotation a.isQuote fun hm => ?_
    obtain ⟨p, hp, hquote⟩ := List.mem_flatMap.1 hm
    exact a.unquoted p hp hquote
  have hsign : Outside ['='] := outside_of_forall (by simp)
  have htext : a.text = a.lead.chars ++ (a.name.chars ++ (a.before.chars ++ (['='] ++ (a.behind.chars ++
      (a.quote :: (a.raw ++ [a.quote])))))) := by
    simp [AttributeText.text, AttributeText.body]
  rw [htext]
  exact (outside_blanks a.lead).append ((outside_name a.name).append ((outside_blanks a.before).append
    (hsign.append ((outside_blanks a.behind).append hvalue))))

/-- What stands between `<` and `>` is taken as one tag if its quotations are complete. -/
theorem foldl_between {c : Char} {rest : List Char} (hdeclaration : c ≠ '!') (hinstruction : c ≠ '?')
    (h : Outside (c :: rest)) :
    ('<' :: (c :: rest ++ ['>'])).foldl advance ⟨done, names, .text⟩ =
      takeTag ⟨done, names, .tag (c :: rest).reverse none⟩ (c :: rest) := by
  have hopen : advance ⟨done, names, .text⟩ '<' = ⟨done, names, .markup⟩ := rfl
  -- behind `<` the first character is taken as in a tag
  have hfirst : advance ⟨done, names, .markup⟩ c = advance ⟨done, names, .tag [] none⟩ c := by
    simp only [advance, if_neg hdeclaration, if_neg hinstruction, advanceTag]
    split <;> rfl
  have hin : (c :: rest).foldl advance ⟨done, names, .markup⟩ =
      ⟨done, names, .tag (c :: rest).reverse none⟩ := by
    rw [List.foldl_cons, hfirst, ← List.foldl_cons, h, List.append_nil]
  rw [List.foldl_cons, hopen, List.foldl_append, hin, List.foldl_cons, List.foldl_nil]
  simp [advance, advanceTag]

theorem getLast?_append_ne {x : Char} {l m : List Char} (hl : l.getLast? ≠ some x) (hm : m.getLast? ≠ some x) :
    (l ++ m).getLast? ≠ some x := by
  rw [List.getLast?_append]
  cases h : m.getLast? with
  | none => exact hl
  | some y => exact fun heq => hm (h.trans heq)

/-- What may stand behind the name of a tag: it is parted from the name, the tag does not end in it, and it does not end
like an empty tag. -/
structure Follows (rest : List Char) : Prop where
  apart : ∀ c ∈ rest.head?, isSpace c = true
  outside : Outside rest
  last : rest.getLast? ≠ some '/'

/-- Attributes as they are written may stand behind a name. -/
theorem follows_attributes (attributes : List AttributeText) (trail : Blanks) :
    Follows (attributes.flatMap AttributeText.text ++ trail.chars) where
  apart c hc := by
    cases attributes with
    | nil =>
      have hm : c ∈ trail.chars := List.mem_of_head? (by simpa using hc)
      exact trail.valid c hm
    | cons a more =>
      -- an attribute starts with a blank
      obtain ⟨blank, blanks, hlead⟩ := List.exists_cons_of_ne_nil a.apart
      obtain rfl : blank = c := by simpa [AttributeText.text, hlead] using hc
      exact a.lead.valid blank (hlead ▸ List.mem_cons_self)
  outside := by
    have hattributes : ∀ attributes : List AttributeText, Outside (attributes.flatMap AttributeText.text) := by
      intro attributes
      induction attributes with
      | nil => exact fun _ _ _ => rfl
      | cons a more ih => exact (outside_attribute a).append ih
    exact (hattributes attributes).append (outside_blanks trail)
  last := by
    have htrail : trail.chars.getLast? ≠ some '/' := fun hl =>
      absurd (trail.valid _ (List.mem_of_getLast? hl)) (by decide)
    have hattributes : ∀ attributes : List AttributeText,
        (attributes.flatMap AttributeText.text).getLast? ≠ some '/' := by
      intro attributes
      induction attributes with
      | nil => simp
      | cons a more ih =>
        refine getLast?_append_ne ?_ ih
        -- an attribute ends with its quote
        have hlast : a.text.getLast? = some a.quote := by
          rw [show a.text = (a.lead.chars ++ (a.name.chars ++ (a.before.chars ++ '=' :: (a.behind.chars ++
            a.quote :: a.raw)))) ++ [a.quote] by simp [AttributeText.text, AttributeText.body], List.getLast?_concat]
        rw [hlast]
        rcases a.isQuote with h | h <;> rw [h] <;> decide
    exact getLast?_append_ne (hattributes attributes) htrail

theorem follows_tag (t : TagText) : Follows t.rest := follows_attributes t.attributes t.trail

section Names

variable {rest : List Char}

theorem exists_name_cons (n : Name) (rest : List Char) :
    ∃ c more, n.chars ++ rest = c :: more ∧ isNameChar c = true := by
  obtain ⟨c, more, hname⟩ := List.exists_cons_of_ne_nil n.nonempty
  exact ⟨c, more ++ rest, by rw [hname]; rfl, n.valid c (hname ▸ List.mem_cons_self)⟩

theorem ofText_name (n : Name) (h : Follows rest) : Tag.ofText (n.chars ++ rest) = ⟨n.chars, rest⟩ := by
  have hname : ∀ c ∈ n.chars, (!isSpace c) = true := fun c hc => by
    simp [isSpace_of_isNameChar (n.valid c hc)]
  have hrest : ∀ c ∈ rest.head?, (!isSpace c) = false := fun c hc => by
    simp [h.apart c hc]
  obtain ⟨htake, hdrop⟩ := takeWhile_append_stop hname hrest
  rw [Tag.ofText, htake, hdrop]

/-- A tag that is not an end tag is told from its last character. -/
theorem takeTag_cons {r : Reader} {c : Char} {rest : List Char} (h : c ≠ '/') :
    r.takeTag (c :: rest) =
      if (c :: rest).getLast? = some '/' then ⟨.empty (.ofText (c :: rest).dropLast) :: r.done, r.names, .text⟩
      else ⟨.opened (.ofText (c :: rest)) :: r.done, (Tag.ofText (c :: rest)).name :: r.names, .text⟩ := by
  unfold takeTag
  split
  · next name heq => exact absurd (List.cons.inj heq).1 h
  · rfl

/-- A start tag opens an element. -/
theorem foldl_opened (n : Name) (h : Follows rest) :
    ('<' :: (n.chars ++ rest ++ ['>'])).foldl advance ⟨done, names, .text⟩ =
      ⟨.opened ⟨n.chars, rest⟩ :: done, n.chars :: names, .text⟩ := by
  obtain ⟨c, more, htext, hc⟩ := exists_name_cons n rest
  have hname : n.chars.getLast? ≠ some '/' := fun hl =>
    ne_of_isNameChar (n.valid _ (List.mem_of_getLast? hl)) (by simp) rfl
  have hlast := getLast?_append_ne hname h.last
  have htag := ofText_name n h
  have houtside := (outside_name n).append h.outside
  rw [htext] at hlast htag houtside ⊢
  rw [foldl_between (ne_of_isNameChar hc (by simp)) (ne_of_isNameChar hc (by simp)) houtside,
    takeTag_cons (ne_of_isNameChar hc (by simp)), if_neg hlast, htag]

/-- An empty tag opens none. -/
theorem foldl_empty (n : Name) (h : Follows rest) :
    ('<' :: (n.chars ++ rest ++ ['/', '>'])).foldl advance ⟨done, names, .text⟩ =
      ⟨.empty ⟨n.chars, rest⟩ :: done, names, .text⟩ := by
  obtain ⟨c, more, htext, hc⟩ := exists_name_cons n rest
  have htag := ofText_name n h
  have houtside : Outside (n.chars ++ rest ++ ['/']) :=
    ((outside_name n).append h.outside).append (outside_of_forall (by simp))
  have hlast : (c :: (more ++ ['/'])).getLast? = some '/' := by
    rw [← List.cons_append, List.getLast?_concat]
  have hinner : (c :: (more ++ ['/'])).dropLast = c :: more := by
    rw [← List.cons_append, List.dropLast_concat]
  rw [htext] at htag houtside ⊢
  rw [List.cons_append] at houtside
  rw [show c :: more ++ ['/', '>'] = c :: (more ++ ['/']) ++ ['>'] by simp,
    foldl_between (ne_of_isNameChar hc (by simp)) (ne_of_isNameChar hc (by simp)) houtside,
    takeTag_cons (ne_of_isNameChar hc (by simp)), if_pos hlast, hinner, htag]

end Names

/-- An end tag closes the element with its name. -/
theorem foldl_closed (n : Name) (b : Blanks) :
    (['<', '/'] ++ (n.chars ++ (b.chars ++ ['>']))).foldl advance ⟨done, n.chars :: names, .text⟩ =
      ⟨.closed n.chars :: done, names, .text⟩ := by
  have houtside : Outside ('/' :: (n.chars ++ b.chars)) :=
    Outside.append (l := ['/']) (outside_of_forall (by simp)) ((outside_name n).append (outside_blanks b))
  have htrimmed : ((n.chars ++ b.chars).reverse.dropWhile isSpace).reverse = n.chars := by
    have hblanks : ∀ c ∈ b.chars.reverse, isSpace c = true := fun c hc => b.valid c (List.mem_reverse.1 hc)
    have hname : ∀ c ∈ n.chars.reverse.head?, isSpace c = false := fun c hc =>
      isSpace_of_isNameChar (n.valid c (List.mem_reverse.1 (List.mem_of_head? hc)))
    rw [List.reverse_append, (takeWhile_append_stop hblanks hname).2, List.reverse_reverse]
  rw [show ['<', '/'] ++ (n.chars ++ (b.chars ++ ['>'])) = '<' :: ('/' :: (n.chars ++ b.chars) ++ ['>']) by simp,
    foldl_between (by decide) (by decide) houtside, takeTag, closeElement, htrimmed]
  simp [n.nonempty]

end Reader

/-! ## Documents -/

/-- A document as it is written. -/
inductive Markup where
  | nil
  | aside (a : Aside) (after : Markup)
  /-- A tag that is start and end at once. -/
  | empty (tag : TagText) (after : Markup)
  /-- A start tag, what is inside, and an end tag, which may have blanks behind the name. -/
  | element (tag : TagText) (inside : Markup) (behind : Blanks) (after : Markup)

namespace Markup

/-- The text. -/
def text : Markup → List Char
  | nil => []
  | aside a after => a.text ++ after.text
  | empty tag after => '<' :: (tag.text ++ ['/', '>']) ++ after.text
  | element tag inside behind after =>
    '<' :: (tag.text ++ ['>']) ++
      (inside.text ++ (['<', '/'] ++ (tag.name.chars ++ (behind.chars ++ ['>'])) ++ after.text))

/-- The elements. -/
def elements : Markup → Elements TagText
  | nil => .nil
  | aside _ after => after.elements
  | empty tag after => .cons tag .nil after.elements
  | element tag inside _ after => .cons tag inside.elements after.elements

/-- The events. -/
def events : Markup → List Event
  | nil => []
  | aside _ after => after.events
  | empty tag after => .empty tag.tag :: after.events
  | element tag inside _ after => .opened tag.tag :: (inside.events ++ .closed tag.name.chars :: after.events)

/-- All elements can be written. -/
theorem exists_markup (e : Elements TagText) : ∃ m : Markup, m.elements = e := by
  induction e with
  | nil => exact ⟨nil, rfl⟩
  | cons tag inside after ihInside ihAfter =>
    obtain ⟨mInside, rfl⟩ := ihInside
    obtain ⟨mAfter, rfl⟩ := ihAfter
    exact ⟨element tag mInside .none mAfter, rfl⟩

/-- A document gives its events, and leaves the open elements as they were. -/
theorem foldl_text (m : Markup) (done : List Event) (names : List (List Char)) :
    m.text.foldl Reader.advance ⟨done, names, .text⟩ = ⟨m.events.reverse ++ done, names, .text⟩ := by
  induction m generalizing done names with
  | nil => rfl
  | aside a after ih => rw [text, List.foldl_append, Reader.foldl_aside, ih, events]
  | empty tag after ih =>
    rw [text, List.foldl_append, TagText.text, Reader.foldl_empty tag.name (Reader.follows_tag tag), ih, events,
      List.reverse_cons, List.append_assoc]
    rfl
  | element tag inside behind after ihInside ihAfter =>
    rw [text, List.foldl_append, TagText.text, Reader.foldl_opened tag.name (Reader.follows_tag tag),
      List.foldl_append, ihInside, List.foldl_append, Reader.foldl_closed, ihAfter, events]
    simp [TagText.tag]

/-- The events are the tags of the elements in order. -/
theorem spells_events (m : Markup) : Spells m.events (m.elements.map TagText.tag) := by
  unfold Spells
  induction m with
  | nil => rfl
  | aside a after ih => exact ih
  | empty tag after ih => rw [events, List.flatMap_cons, ih]; rfl
  | element tag inside behind after ihInside ihAfter =>
    rw [events, List.flatMap_cons, List.flatMap_append, List.flatMap_cons, ihInside, ihAfter]
    rfl

/-- **A written document is read up to its end.** -/
theorem read_text (m : Markup) : read m.text = ⟨m.events, true⟩ := by
  have hmark : (withoutMark m.text).foldl Reader.advance .start = m.text.foldl Reader.advance .start := by
    unfold withoutMark
    split
    · next rest heq => rw [heq]; rfl
    · rfl
  rw [read, hmark, show Reader.start = ⟨[], [], .text⟩ from rfl, foldl_text]
  simp [Mode.isText]

end Markup

end DependencyEvidence.Xml
