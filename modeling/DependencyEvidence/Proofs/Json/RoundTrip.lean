import DependencyEvidence.Proofs.Json.Text

/-!
# Documents written and read again

What is written of a value is read back as this value (`parse?_render`), if the value can be written at all
(`Printable`): no text in it is without characters, and its numbers are well formed.

`tokens` lists the tokens of a value, by recursion on the value as in `written`. Both passes of the reader are compared
with it, and both by induction on the value:

* `foldlM_written`: the lexer gets these tokens from the written form. A word ends only when another character follows,
  so the lexer may stand at the end of a word (`Lexer.Behind`); what follows a value is never part of a word.
* `foldlM_tokens`: the parser gets the value from these tokens, whatever containers are open.
-/

namespace DependencyEvidence.Json

/-! ## Values that can be written -/

/-- Whether a value can be written: texts and names have characters, and numbers are words of their own. -/
inductive Printable : Json → Prop where
  | null : Printable .null
  | bool (b : Bool) : Printable (.bool b)
  | number {digits : String} (word : ∀ c ∈ digits.toList, Lexer.isWordCharacter c = true)
      (value : wordValue? digits.toList = some (.number digits)) : Printable (.number digits)
  | text (content : String) : Printable (.text (some content))
  | array {items : List Json} (items_printable : ∀ v ∈ items, Printable v) : Printable (.array items)
  | object {members : List (Option String × Json)} (named : ∀ m ∈ members, m.1.isSome = true)
      (values_printable : ∀ m ∈ members, Printable m.2) : Printable (.object members)

/-! ## The tokens of a value -/

mutual

/-- The tokens of a value. -/
def tokens : Json → List Token
  | .null => [.word .null]
  | .bool b => [.word (.bool b)]
  | .number digits => [.word (.number digits)]
  | .text content => [.text content]
  | .array [] => [.beginArray, .endArray]
  | .array (v :: rest) => .beginArray :: (tokens v ++ itemTokens rest)
  | .object [] => [.beginObject, .endObject]
  | .object ((name, v) :: rest) => .beginObject :: .text name :: .colon :: (tokens v ++ memberTokens rest)

/-- The tokens of the further items of an array, and of its end. -/
def itemTokens : List Json → List Token
  | [] => [.endArray]
  | v :: rest => .comma :: (tokens v ++ itemTokens rest)

/-- The tokens of the further members of an object, and of its end. -/
def memberTokens : List (Option String × Json) → List Token
  | [] => [.endObject]
  | (name, v) :: rest => .comma :: .text name :: .colon :: (tokens v ++ memberTokens rest)

end

/-! ## From characters to tokens -/

namespace Lexer

/-- Whether the lexer stands behind some tokens, of which a word may still be open. -/
inductive Behind : List Token → Lexer → Prop where
  | between (done : List Token) : Behind done ⟨done, .between⟩
  | word {letters : List Char} {v : Json} (done : List Token) (value : wordValue? letters.reverse = some v) :
      Behind (.word v :: done) ⟨done, .word letters⟩

variable {done : List Token} {l : Lexer} {c : Char}

/-- What is not part of a word ends it. -/
theorem Behind.advance (h : Behind done l) (hc : isWordCharacter c = false) :
    l.advance c = advanceBetween done c := by
  cases h with
  | between => rfl
  | @word letters v done value =>
    show (if isWordCharacter c = true then _ else (wordValue? letters.reverse).bind _) = _
    rw [hc, if_neg Bool.false_ne_true, value]
    rfl

theorem Behind.finish? (h : Behind done l) : l.finish? = some done.reverse := by
  cases h with
  | between => rfl
  | @word letters v done value =>
    show (wordValue? letters.reverse).bind _ = _
    rw [value]
    rfl

theorem Behind.foldlM (h : Behind done l) (hc : isWordCharacter c = false) (rest : List Char) :
    (c :: rest).foldlM Lexer.advance l = (c :: rest).foldlM Lexer.advance ⟨done, .between⟩ := by
  rw [List.foldlM_cons, List.foldlM_cons, h.advance hc, (Behind.between done).advance hc]

theorem isWordCharacter_of_isBlank (h : isBlank c = true) : isWordCharacter c = false := by
  simp only [isBlank, Bool.or_eq_true, beq_iff_eq] at h
  rcases h with ((rfl | rfl) | rfl) | rfl <;> decide

/-- Blanks change nothing. -/
theorem foldlM_blanks {blanks : List Char} (h : ∀ c ∈ blanks, isBlank c = true) (done : List Token) :
    blanks.foldlM Lexer.advance ⟨done, .between⟩ = some ⟨done, .between⟩ := by
  induction blanks with
  | nil => rfl
  | cons c rest ih =>
    obtain ⟨hc, hrest⟩ := List.forall_mem_cons.1 h
    have hblank : Lexer.advance ⟨done, .between⟩ c = some ⟨done, .between⟩ := if_pos hc
    rw [foldlM_cons_of_some hblank, ih hrest]

/-- Blanks after a token change nothing but to end a word. -/
theorem Behind.foldlM_blanks {blanks : List Char} (h : Behind done l) (hb : ∀ c ∈ blanks, isBlank c = true) :
    ∃ l', blanks.foldlM Lexer.advance l = some l' ∧ Behind done l' := by
  cases blanks with
  | nil => exact ⟨l, rfl, h⟩
  | cons c rest =>
    have hc := isWordCharacter_of_isBlank (hb c List.mem_cons_self)
    rw [h.foldlM hc, Lexer.foldlM_blanks hb]
    exact ⟨_, rfl, .between done⟩

/-- A line ends a word, and its indentation is skipped. -/
theorem Behind.foldlM_newLine (h : Behind done l) (level : Nat) (rest : List Char) :
    (newLine level ++ rest).foldlM Lexer.advance l = rest.foldlM Lexer.advance ⟨done, .between⟩ := by
  have hblank : ∀ c ∈ newLine level, isBlank c = true := by
    intro c hc
    rcases List.mem_cons.1 hc with rfl | hc
    · rfl
    · rw [List.eq_of_mem_replicate hc]
      rfl
  rw [newLine, List.cons_append, h.foldlM (by decide)]
  exact foldlM_append_of_some (Lexer.foldlM_blanks hblank done) rest

/-- A word is kept until something else follows. -/
theorem foldlM_word {letters : List Char} (hne : letters ≠ []) (h : ∀ c ∈ letters, isWordCharacter c = true)
    (done : List Token) : letters.foldlM Lexer.advance ⟨done, .between⟩ = some ⟨done, .word letters.reverse⟩ := by
  have hmore : ∀ (rest before : List Char), (∀ c ∈ rest, isWordCharacter c = true) →
      rest.foldlM Lexer.advance ⟨done, .word before⟩ = some ⟨done, .word (rest.reverse ++ before)⟩ := by
    intro rest
    induction rest with
    | nil => exact fun _ _ => rfl
    | cons c rest ih =>
      intro before hrest
      obtain ⟨hc, hrest⟩ := List.forall_mem_cons.1 hrest
      have hletter : Lexer.advance ⟨done, .word before⟩ c = some ⟨done, .word (c :: before)⟩ := if_pos hc
      rw [foldlM_cons_of_some hletter, ih _ hrest, List.reverse_cons, List.append_assoc]
      rfl
  obtain ⟨c, rest, rfl⟩ := List.exists_cons_of_ne_nil hne
  obtain ⟨hc, hrest⟩ := List.forall_mem_cons.1 h
  have hblank : isBlank c = false := by
    rw [← Bool.not_eq_true]
    intro hblank
    rw [isWordCharacter_of_isBlank hblank] at hc
    cases hc
  have hfirst : Lexer.advance ⟨done, .between⟩ c = some ⟨done, .word [c]⟩ := by
    show (if isBlank c = true then _ else if isWordCharacter c = true then _ else _) = _
    rw [hblank, if_neg Bool.false_ne_true, if_pos hc]
  rw [foldlM_cons_of_some hfirst, hmore rest [c] hrest, List.reverse_cons]

end Lexer

section Written

open Lexer

/-- A word is read as its value once something else follows. -/
theorem behind_of_word {letters : String} {v : Json} (hne : letters.toList ≠ [])
    (h : ∀ c ∈ letters.toList, isWordCharacter c = true) (hv : wordValue? letters.toList = some v) (done : List Token) :
    ∃ l, letters.toList.foldlM Lexer.advance ⟨done, .between⟩ = some l ∧ Behind (.word v :: done) l :=
  ⟨_, foldlM_word hne h done, .word done (by rwa [List.reverse_reverse])⟩

/-- The name of a member and the colon are two tokens. -/
theorem foldlM_name (done : List Token) (name : String) (rest : List Char) :
    (quoted (some name) ++ (": ".toList ++ rest)).foldlM Lexer.advance ⟨done, .between⟩ =
      rest.foldlM Lexer.advance ⟨.colon :: .text (some name) :: done, .between⟩ := by
  have hcolon : ": ".toList.foldlM Lexer.advance ⟨.text (some name) :: done, .between⟩ =
      some ⟨.colon :: .text (some name) :: done, .between⟩ := rfl
  rw [foldlM_append_of_some (foldlM_quoted done name), foldlM_append_of_some hcolon]

mutual

/-- **The lexer gets the tokens of a value** from the written form. -/
theorem foldlM_written (v : Json) (h : v.Printable) (level : Nat) (done : List Token) :
    ∃ l, (written level v).foldlM Lexer.advance ⟨done, .between⟩ = some l ∧ Behind ((tokens v).reverse ++ done) l := by
  match v, h with
  | .null, _ => exact behind_of_word (by decide) (List.all_eq_true.1 rfl) rfl done
  | .bool true, _ => exact behind_of_word (by decide) (List.all_eq_true.1 rfl) rfl done
  | .bool false, _ => exact behind_of_word (by decide) (List.all_eq_true.1 rfl) rfl done
  | .number digits, .number hword hvalue =>
    refine behind_of_word (fun hnil => ?_) hword hvalue done
    rw [hnil] at hvalue
    cases hvalue
  | .text (some content), _ => exact ⟨_, foldlM_quoted done content, .between _⟩
  | .array [], _ => exact ⟨_, rfl, .between _⟩
  | .array (v :: rest), .array hitems =>
    obtain ⟨hv, hrest⟩ := List.forall_mem_cons.1 hitems
    have hopen : Lexer.advance ⟨done, .between⟩ '[' = some ⟨.beginArray :: done, .between⟩ := rfl
    obtain ⟨l, hl, hbehind⟩ := foldlM_written v hv (level + 1) (.beginArray :: done)
    obtain ⟨l', hl', hbehind'⟩ := foldlM_writtenItems rest hrest level hbehind
    refine ⟨l', ?_, ?_⟩
    · simp only [written, List.cons_append, List.append_assoc]
      rw [foldlM_cons_of_some hopen, (Behind.between _).foldlM_newLine, foldlM_append_of_some hl, hl']
    · simpa [tokens] using hbehind'
  | .object [], _ => exact ⟨_, rfl, .between _⟩
  | .object ((some name, v) :: rest), .object hnamed hvalues =>
    obtain ⟨hv, hrest⟩ := List.forall_mem_cons.1 hvalues
    have hopen : Lexer.advance ⟨done, .between⟩ '\x7b' = some ⟨.beginObject :: done, .between⟩ := rfl
    obtain ⟨l, hl, hbehind⟩ := foldlM_written v hv (level + 1) (.colon :: .text (some name) :: .beginObject :: done)
    obtain ⟨l', hl', hbehind'⟩ :=
      foldlM_writtenMembers rest (List.forall_mem_cons.1 hnamed).2 hrest level hbehind
    refine ⟨l', ?_, ?_⟩
    · simp only [written, List.cons_append, List.append_assoc]
      rw [foldlM_cons_of_some hopen, (Behind.between _).foldlM_newLine, foldlM_name, foldlM_append_of_some hl, hl']
    · simpa [tokens] using hbehind'
  | .object ((none, v) :: rest), .object hnamed _ => cases hnamed _ List.mem_cons_self

theorem foldlM_writtenItems (rest : List Json) (h : ∀ v ∈ rest, v.Printable) (level : Nat) {done : List Token}
    {l : Lexer} (hl : Behind done l) :
    ∃ l', (writtenItems level rest).foldlM Lexer.advance l = some l' ∧
      Behind ((itemTokens rest).reverse ++ done) l' := by
  match rest, h with
  | [], _ =>
    have hclose : Lexer.advance ⟨done, .between⟩ ']' = some ⟨.endArray :: done, .between⟩ := rfl
    refine ⟨⟨.endArray :: done, .between⟩, ?_, .between _⟩
    rw [writtenItems, hl.foldlM_newLine, foldlM_cons_of_some hclose]
    rfl
  | v :: rest, h =>
    obtain ⟨hv, hrest⟩ := List.forall_mem_cons.1 h
    have hcomma : Lexer.advance ⟨done, .between⟩ ',' = some ⟨.comma :: done, .between⟩ := rfl
    obtain ⟨l', hl', hbehind⟩ := foldlM_written v hv (level + 1) (.comma :: done)
    obtain ⟨l'', hl'', hbehind'⟩ := foldlM_writtenItems rest hrest level hbehind
    refine ⟨l'', ?_, ?_⟩
    · simp only [writtenItems, List.cons_append, List.append_assoc]
      rw [hl.foldlM (by decide), foldlM_cons_of_some hcomma, (Behind.between _).foldlM_newLine,
        foldlM_append_of_some hl', hl'']
    · simpa [itemTokens] using hbehind'

theorem foldlM_writtenMembers (rest : List (Option String × Json)) (hnamed : ∀ m ∈ rest, m.1.isSome = true)
    (hvalues : ∀ m ∈ rest, m.2.Printable) (level : Nat) {done : List Token} {l : Lexer} (hl : Behind done l) :
    ∃ l', (writtenMembers level rest).foldlM Lexer.advance l = some l' ∧
      Behind ((memberTokens rest).reverse ++ done) l' := by
  match rest, hnamed, hvalues with
  | [], _, _ =>
    have hclose : Lexer.advance ⟨done, .between⟩ '\x7d' = some ⟨.endObject :: done, .between⟩ := rfl
    refine ⟨⟨.endObject :: done, .between⟩, ?_, .between _⟩
    rw [writtenMembers, hl.foldlM_newLine, foldlM_cons_of_some hclose]
    rfl
  | (some name, v) :: rest, hnamed, hvalues =>
    obtain ⟨hv, hrest⟩ := List.forall_mem_cons.1 hvalues
    have hcomma : Lexer.advance ⟨done, .between⟩ ',' = some ⟨.comma :: done, .between⟩ := rfl
    obtain ⟨l', hl', hbehind⟩ := foldlM_written v hv (level + 1) (.colon :: .text (some name) :: .comma :: done)
    obtain ⟨l'', hl'', hbehind'⟩ :=
      foldlM_writtenMembers rest (List.forall_mem_cons.1 hnamed).2 hrest level hbehind
    refine ⟨l'', ?_, ?_⟩
    · simp only [writtenMembers, List.cons_append, List.append_assoc]
      rw [hl.foldlM (by decide), foldlM_cons_of_some hcomma, (Behind.between _).foldlM_newLine, foldlM_name,
        foldlM_append_of_some hl', hl'']
    · simpa [memberTokens] using hbehind'
  | (none, v) :: rest, hnamed, _ => cases hnamed _ List.mem_cons_self

end

/-- The tokens of a document are those of its value. Blanks behind it do not matter. -/
theorem tokens?_render {v : Json} (h : v.Printable) {blanks : String} (hb : ∀ c ∈ blanks.toList, isBlank c = true) :
    tokens? (v.render ++ blanks).toList = some (tokens v) := by
  obtain ⟨l, hl, hbehind⟩ := foldlM_written v h 0 []
  rw [List.append_nil] at hbehind
  obtain ⟨l', hl', hbehind'⟩ := hbehind.foldlM_blanks hb
  have htext : (v.render ++ blanks).toList = written 0 v ++ blanks.toList := by
    rw [String.toList_append, render, String.toList_ofList]
  have hread : (v.render ++ blanks).toList.foldlM Lexer.advance .start = some l' := by
    rw [htext, Lexer.start, foldlM_append_of_some hl, hl']
  rw [tokens?, hread]
  show l'.finish? = _
  rw [hbehind'.finish?, List.reverse_reverse]

end Written

/-! ## From tokens to values -/

/-- Where the first item of an array may stand, a value is read as elsewhere. -/
theorem foldlM_firstItem (v : Json) (frames : List Frame) :
    (tokens v).foldlM State.step (.firstItem frames) = (tokens v).foldlM State.step (.value (.array [] :: frames)) := by
  cases v with
  | array items => cases items <;> rfl
  | object members =>
    cases members with
    | nil => rfl
    | cons m rest => rfl
  | _ => rfl

mutual

/-- **The parser gets a value from its tokens**, whatever containers are open. -/
theorem foldlM_tokens (v : Json) (frames : List Frame) :
    (tokens v).foldlM State.step (.value frames) = some (.after v frames) := by
  match v with
  | .null | .bool _ | .number _ | .text _ | .array [] | .object [] => rfl
  | .array (v :: rest) =>
    have hopen : State.step (.value frames) .beginArray = some (.firstItem frames) := rfl
    have hfirst := (foldlM_firstItem v frames).trans (foldlM_tokens v _)
    rw [tokens, foldlM_cons_of_some hopen, foldlM_append_of_some hfirst, foldlM_itemTokens rest v [] frames]
    rfl
  | .object ((name, v) :: rest) =>
    have hopen : State.step (.value frames) .beginObject = some (.firstName frames) := rfl
    have hname : State.step (.firstName frames) (.text name) = some (.colon [] name frames) := rfl
    have hcolon : State.step (.colon [] name frames) .colon = some (.value (.object [] name :: frames)) := rfl
    rw [tokens, foldlM_cons_of_some hopen, foldlM_cons_of_some hname, foldlM_cons_of_some hcolon,
      foldlM_append_of_some (foldlM_tokens v _), foldlM_memberTokens rest name v [] frames]
    rfl

theorem foldlM_itemTokens (rest : List Json) (v : Json) (done : List Json) (frames : List Frame) :
    (itemTokens rest).foldlM State.step (.after v (.array done :: frames)) =
      some (.after (.array ((v :: done).reverse ++ rest)) frames) := by
  match rest with
  | [] =>
    rw [List.append_nil]
    rfl
  | w :: rest =>
    have hcomma : State.step (.after v (.array done :: frames)) .comma = some (.value (.array (v :: done) :: frames)) :=
      rfl
    rw [itemTokens, foldlM_cons_of_some hcomma, foldlM_append_of_some (foldlM_tokens w _),
      foldlM_itemTokens rest w (v :: done) frames]
    simp

theorem foldlM_memberTokens (rest : List (Option String × Json)) (name : Option String) (v : Json)
    (done : List (Option String × Json)) (frames : List Frame) :
    (memberTokens rest).foldlM State.step (.after v (.object done name :: frames)) =
      some (.after (.object (((name, v) :: done).reverse ++ rest)) frames) := by
  match rest with
  | [] =>
    rw [List.append_nil]
    rfl
  | (next, w) :: rest =>
    have hcomma : State.step (.after v (.object done name :: frames)) .comma =
        some (.nextName ((name, v) :: done) frames) := rfl
    have hname : State.step (.nextName ((name, v) :: done) frames) (.text next) =
        some (.colon ((name, v) :: done) next frames) := rfl
    have hcolon : State.step (.colon ((name, v) :: done) next frames) .colon =
        some (.value (.object ((name, v) :: done) next :: frames)) := rfl
    rw [memberTokens, foldlM_cons_of_some hcomma, foldlM_cons_of_some hname, foldlM_cons_of_some hcolon,
      foldlM_append_of_some (foldlM_tokens w _), foldlM_memberTokens rest next w ((name, v) :: done) frames]
    simp

end

/-- **What is written of a value is read back as this value**, if it can be written. Blanks behind it do not matter. -/
theorem parse?_render {v : Json} (h : v.Printable) {blanks : String}
    (hb : ∀ c ∈ blanks.toList, Lexer.isBlank c = true) : parse? (v.render ++ blanks) = some v := by
  rw [parse?, tokens?_render h hb]
  show ofTokens? (tokens v) = _
  rw [ofTokens?, foldlM_tokens]
  rfl

end DependencyEvidence.Json
