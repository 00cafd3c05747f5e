import DependencyEvidence.Proofs.Hints.Nesting
import DependencyEvidence.Proofs.Xml.Markup

/-!
# Empty tags

An empty tag and a start tag with its end tag behind it are the same to a document of rules, wherever they stand. Behind
both, the reader is in the same state but for its events, and a draft takes the events of both alike.

* `Xml.StartTag`: a start tag with anything behind its name, told from its text alone (`Xml.endsOutside`).
* `Xml.Reader.advance_above`, `Xml.Reader.foldl_above`: what the reader does with a text does not depend on the events
  that it holds.
* `Xml.read_asEmpty_cases`: so the same is read of a text with an empty tag at a place and with the two tags there, but
  for these tags.
* `RuleSet.ofText_asEmpty`: and a document gives the same rules, or the same error.
-/

namespace DependencyEvidence

namespace Xml

/-! ## Start tags -/

/-- Whether a text in a tag, or in a quotation of it, ends outside of quotations and has no `>` outside of them. -/
def endsOutside : Option Char → List Char → Bool
  | none, [] => true
  | some _, [] => false
  | none, c :: rest => c ≠ '>' && endsOutside (if c = '"' ∨ c = '\'' then some c else none) rest
  | some quote, c :: rest => endsOutside (if c = quote then none else some quote) rest

/-- A start tag with anything behind its name that leaves it a start tag: attributes need not be well formed. -/
structure StartTag where
  name : Name
  rest : List Char
  apart : ∀ c ∈ rest.head?, isSpace c = true
  ends : endsOutside none rest = true
  last : rest.getLast? ≠ some '/'

namespace StartTag

/-- The start tag, and its end tag behind it. -/
def written (t : StartTag) : List Char :=
  '<' :: (t.name.chars ++ t.rest ++ ['>']) ++ (['<', '/'] ++ (t.name.chars ++ ['>']))

/-- The empty tag with the same name and attributes. -/
def asEmpty (t : StartTag) : List Char := '<' :: (t.name.chars ++ t.rest ++ ['/', '>'])

/-- The tag that is read. -/
def tag (t : StartTag) : Tag := ⟨t.name.chars, t.rest⟩

end StartTag

namespace Reader

variable {done : List Event} {names : List (List Char)}

theorem foldl_endsOutside {quote : Option Char} {text : List Char} (h : endsOutside quote text = true)
    (content : List Char) :
    text.foldl advance ⟨done, names, .tag content quote⟩ = ⟨done, names, .tag (text.reverse ++ content) none⟩ := by
  induction text generalizing quote content with
  | nil =>
    cases quote with
    | none => rfl
    | some q => simp [endsOutside] at h
  | cons c rest ih =>
    rw [List.foldl_cons, List.reverse_cons, List.append_assoc]
    cases quote with
    | none =>
      obtain ⟨hend, hrest⟩ : c ≠ '>' ∧ endsOutside (if c = '"' ∨ c = '\'' then some c else none) rest = true := by
        simpa [endsOutside] using h
      have hc : advance ⟨done, names, .tag content none⟩ c =
          ⟨done, names, .tag (c :: content) (if c = '"' ∨ c = '\'' then some c else none)⟩ := by
        simp only [advance, advanceTag, if_neg hend, into]
      rw [hc, ih hrest]
      rfl
    | some q =>
      rw [endsOutside] at h
      exact ih h (c :: content)

/-- A tag takes a text up to its end if its quotations end. -/
theorem outside_of_endsOutside {text : List Char} (h : endsOutside none text = true) : Outside text :=
  fun _ _ content => foldl_endsOutside h content

theorem follows_startTag (t : StartTag) : Follows t.rest := ⟨t.apart, outside_of_endsOutside t.ends, t.last⟩

/-! ## Events do not matter to the reader -/

/-- The reader with further events before its own. -/
def above (r : Reader) (before : List Event) : Reader := { r with done := r.done ++ before }

theorem closeElement_above (r : Reader) (before : List Event) (content : List Char) :
    (r.above before).closeElement content = (r.closeElement content).above before := by
  obtain ⟨done, names, mode⟩ := r
  cases names with
  | nil => rfl
  | cons innermost names =>
    simp only [closeElement, above]
    generalize (if (content.reverse.dropWhile isSpace).reverse.isEmpty then content
      else (content.reverse.dropWhile isSpace).reverse) = name
    split <;> rfl

theorem takeTag_above (r : Reader) (before : List Event) (content : List Char) :
    (r.above before).takeTag content = (r.takeTag content).above before := by
  unfold takeTag
  split
  · exact closeElement_above r before _
  · split <;> rfl

theorem advanceTag_above (r : Reader) (before : List Event) (content : List Char) (quote : Option Char) (c : Char) :
    (r.above before).advanceTag content quote c = (r.advanceTag content quote c).above before := by
  cases quote with
  | some q => rfl
  | none =>
    simp only [advanceTag]
    split
    · exact takeTag_above r before _
    · rfl

/-- What a character does to the reader does not depend on the events so far. -/
theorem advance_above (r : Reader) (before : List Event) (c : Char) :
    (r.above before).advance c = (r.advance c).above before := by
  have htag := advanceTag_above r before
  obtain ⟨done, names, mode⟩ := r
  cases mode with
  | tag content quote => exact htag content quote c
  | markup =>
    simp only [advance, above]
    split
    · rfl
    · split
      · rfl
      · exact htag [] none c
  | broken => rfl
  | _ => simp only [advance, above]; (repeat' split) <;> rfl

theorem foldl_above (text : List Char) (r : Reader) (before : List Event) :
    text.foldl advance (r.above before) = (text.foldl advance r).above before := by
  induction text generalizing r with
  | nil => rfl
  | cons c rest ih => rw [List.foldl_cons, advance_above, ih, List.foldl_cons]

theorem foldl_broken (text : List Char) : text.foldl advance ⟨done, names, .broken⟩ = ⟨done, names, .broken⟩ := by
  induction text with
  | nil => rfl
  | cons c rest ih => exact ih

theorem foldl_asEmpty (t : StartTag) :
    t.asEmpty.foldl advance ⟨done, names, .text⟩ = ⟨.empty t.tag :: done, names, .text⟩ :=
  foldl_empty t.name (follows_startTag t)

theorem foldl_written (t : StartTag) :
    t.written.foldl advance ⟨done, names, .text⟩ =
      ⟨.closed t.name.chars :: .opened t.tag :: done, names, .text⟩ := by
  rw [StartTag.written, List.foldl_append, foldl_opened t.name (follows_startTag t), ← List.nil_append ['>']]
  exact foldl_closed t.name .none

end Reader

/-! ## Readings -/

/-- Whether a text ends outside of tags, comments and the like, or behind a fault. -/
def outsideMarkup (text : List Char) : Bool :=
  match ((withoutMark text).foldl Reader.advance .start).mode with
  | .text => true
  | .broken => true
  | _ => false

/-- Whether two readings have the same tags, where an empty tag is a start tag and an end tag. -/
structure SameTags (a b : Reading) : Prop where
  tags : a.events.flatMap Event.tags = b.events.flatMap Event.tags
  complete : a.complete = b.complete

/-- What has been read at the end of a document. -/
def Reader.reading (r : Reader) : Reading := ⟨r.done.reverse, r.mode.isText⟩

theorem read_append (before tag after : List Char) (h : tag.head? = some '<') :
    read (before ++ tag ++ after) =
      (after.foldl Reader.advance
        (tag.foldl Reader.advance ((withoutMark before).foldl Reader.advance .start))).reading := by
  obtain ⟨more, rfl⟩ : ∃ more, tag = '<' :: more := List.head?_eq_some_iff.1 h
  -- a mark before the tag is one at the start of the text before it
  have hmark : withoutMark (before ++ '<' :: more ++ after) = withoutMark before ++ '<' :: more ++ after := by
    cases before with
    | nil => rfl
    | cons first rest =>
      by_cases hfirst : first = '\ufeff'
      · subst hfirst
        rfl
      · simp [withoutMark, hfirst]
  rw [read, hmark, List.foldl_append, List.foldl_append]
  rfl

/-- With an empty tag at a place and with a start tag and its end tag there, the same is read but for these. Behind a
fault, nothing is read of either. -/
theorem read_asEmpty_cases (before after : List Char) (t : StartTag) (h : outsideMarkup before = true) :
    read (before ++ t.asEmpty ++ after) = read (before ++ t.written ++ after) ∨
    ∃ rest, (read (before ++ t.asEmpty ++ after)).events = (read before).events ++ .empty t.tag :: rest ∧
      (read (before ++ t.written ++ after)).events =
        (read before).events ++ .opened t.tag :: .closed t.name.chars :: rest ∧
      (read (before ++ t.asEmpty ++ after)).complete = (read (before ++ t.written ++ after)).complete := by
  rw [read_append before t.asEmpty after rfl, read_append before t.written after rfl,
    show read before = ((withoutMark before).foldl Reader.advance .start).reading from rfl]
  rw [outsideMarkup] at h
  generalize (withoutMark before).foldl Reader.advance .start = r at h ⊢
  obtain ⟨done, names, mode⟩ := r
  cases mode with
  | text =>
    rw [Reader.foldl_asEmpty, Reader.foldl_written]
    -- but for the events, the reader is the same behind both
    have hsame : ∀ events : List Event, after.foldl Reader.advance ⟨events, names, .text⟩ =
        (after.foldl Reader.advance ⟨[], names, .text⟩).above events :=
      fun events => Reader.foldl_above after ⟨[], names, .text⟩ events
    rw [hsame, hsame (_ :: _ :: _)]
    exact .inr ⟨(after.foldl Reader.advance ⟨[], names, .text⟩).done.reverse, by simp [Reader.reading, Reader.above],
      by simp [Reader.reading, Reader.above], rfl⟩
  | broken =>
    simp only [Reader.foldl_broken]
    exact .inl trivial
  | _ => cases h

/-- A document has the same tags with an empty tag at a place and with a start tag and its end tag there. -/
theorem sameTags_asEmpty (before after : List Char) (t : StartTag) (h : outsideMarkup before = true) :
    SameTags (read (before ++ t.asEmpty ++ after)) (read (before ++ t.written ++ after)) := by
  rcases read_asEmpty_cases before after t h with heq | ⟨rest, hempty, hwritten, hcomplete⟩
  · rw [heq]
    exact ⟨rfl, rfl⟩
  · refine ⟨?_, hcomplete⟩
    rw [hempty, hwritten]
    simp [Event.tags, StartTag.tag]

end Xml

/-! ## Documents of rules -/

namespace RuleSet

/-- In a document, in which every element is closed, a draft takes an empty tag as a start tag and its end tag. -/
theorem foldlM_asEmpty_of_closed (before after : List Char) (t : Xml.StartTag) (h : Xml.outsideMarkup before = true)
    (hclosed : Xml.openAt (before ++ t.asEmpty ++ after) = []) :
    (Xml.read (before ++ t.asEmpty ++ after)).events.foldlM Draft.step .start =
      (Xml.read (before ++ t.written ++ after)).events.foldlM Draft.step .start :=
  Draft.foldlM_congr_tags (Xml.sameTags_asEmpty before after t h).tags (by rw [Xml.nesting_read, hclosed])

/-- In any text it does so where the count of open elements has room for one more. -/
theorem foldlM_asEmpty_of_room (before after : List Char) (t : Xml.StartTag) (h : Xml.outsideMarkup before = true)
    (hroom : (Xml.openAt before).length + 1 < UInt32.size) :
    (Xml.read (before ++ t.asEmpty ++ after)).events.foldlM Draft.step .start =
      (Xml.read (before ++ t.written ++ after)).events.foldlM Draft.step .start := by
  rcases Xml.read_asEmpty_cases before after t h with heq | ⟨rest, hempty, hwritten, -⟩
  · rw [heq]
  · have htags : Xml.Event.opened t.tag :: .closed t.name.chars :: rest = (Xml.Event.empty t.tag).tags ++ rest := rfl
    rw [hempty, hwritten, htags, List.foldlM_append, List.foldlM_append]
    cases hfold : (Xml.read before).events.foldlM Draft.step .start with
    | error e => rfl
    | ok d =>
      have hdepth : d.depth.toNat ≤ (Xml.openAt before).length := by
        rw [Draft.foldlM_depth hfold]
        exact Draft.toNat_foldl_count_le (Xml.nesting_read before)
      show List.foldlM Draft.step d _ = List.foldlM Draft.step d _
      rw [List.foldlM_append, Draft.foldlM_tags (by omega), List.foldlM_cons]

/-- What a draft refuses, it refuses wherever the count of open elements is. -/
theorem foldlM_asEmpty_map (before after : List Char) (t : Xml.StartTag) (h : Xml.outsideMarkup before = true) :
    ((Xml.read (before ++ t.asEmpty ++ after)).events.foldlM Draft.step .start).map (·.recounted 0) =
      ((Xml.read (before ++ t.written ++ after)).events.foldlM Draft.step .start).map (·.recounted 0) := by
  have htags : ∀ events : List Xml.Event,
      ((events.flatMap Xml.Event.tags).foldlM Draft.step .start).map (·.recounted 0) =
        (events.foldlM Draft.step .start).map (·.recounted 0) := by
    intro events
    rw [Draft.foldlM_flatMap_tags_recounted]
    cases events.foldlM Draft.step .start <;> rfl
  rw [← htags, (Xml.sameTags_asEmpty before after t h).tags, htags]

/-- With a fault behind them, nothing but the refusal of events matters. -/
theorem ofReading_of_fault {r : Xml.Reading} (h : r.complete = false) :
    ofReading r = (r.events.foldlM Draft.step .start).map (·.recounted 0) >>= fun _ => .error .malformed := by
  rw [ofReading, h]
  cases r.events.foldlM Draft.step .start <;> rfl

/-- **A document with an empty tag at a place is read as with a start tag and its end tag there.** The place need not
be one where the element may stand. The draft takes the tags alike, and both documents are XML up to their ends or none
is: so where the error is `malformed`, it comes from the same check.

A document leaves no element open. A text that does, or that has faults before the place or behind it, is read alike too
where the count of open elements is not full at the place. If it is full, a fault still makes both the same, for then
the count is not asked. -/
theorem ofText_asEmpty (before after : List Char) (t : Xml.StartTag) (h : Xml.outsideMarkup before = true) :
    ((Xml.openAt (before ++ t.asEmpty ++ after) = [] ∨ (Xml.openAt before).length + 1 < UInt32.size) →
      ofText (String.ofList (before ++ t.asEmpty ++ after)) = ofText (String.ofList (before ++ t.written ++ after)) ∧
      (Xml.read (before ++ t.asEmpty ++ after)).events.foldlM Draft.step .start =
        (Xml.read (before ++ t.written ++ after)).events.foldlM Draft.step .start) ∧
    ((Xml.read (before ++ t.asEmpty ++ after)).complete = false →
      ofText (String.ofList (before ++ t.asEmpty ++ after)) = ofText (String.ofList (before ++ t.written ++ after))) ∧
    (Xml.read (before ++ t.asEmpty ++ after)).complete = (Xml.read (before ++ t.written ++ after)).complete := by
  have hcomplete := (Xml.sameTags_asEmpty before after t h).complete
  refine ⟨fun hcount => ?_, fun hfault => ?_, hcomplete⟩
  · have hfold := hcount.elim (foldlM_asEmpty_of_closed before after t h) (foldlM_asEmpty_of_room before after t h)
    refine ⟨?_, hfold⟩
    rw [ofText, ofText, String.toList_ofList, String.toList_ofList, ofReading, ofReading, hfold, hcomplete]
  · have hmap := foldlM_asEmpty_map before after t h
    rw [ofText, ofText, String.toList_ofList, String.toList_ofList, ofReading_of_fault hfault,
      ofReading_of_fault (hcomplete ▸ hfault), hmap]

end RuleSet

/-- A tag with an attribute that holds the end of a tag. -/
def givenTag : Xml.StartTag where
  name := ⟨"given".toList, by decide, List.all_eq_true.1 (by decide)⟩
  rest := " note='>'".toList
  apart := by simp [Xml.isSpace]
  ends := by decide
  last := by decide

theorem RuleSet.ofText_asEmpty_given :
    Xml.outsideMarkup "<hints><hint>".toList = true ∧
    Xml.openAt "<hints><hint><given note='>'/></hint></hints>".toList = [] ∧
    RuleSet.ofText "<hints><hint><given note='>'/></hint></hints>" =
      RuleSet.ofText "<hints><hint><given note='>'></given></hint></hints>" :=
  have h : Xml.outsideMarkup "<hints><hint>".toList = true := by decide
  have hclosed : Xml.openAt "<hints><hint><given note='>'/></hint></hints>".toList = [] := by decide +kernel
  ⟨h, hclosed, ((ofText_asEmpty "<hints><hint>".toList "</hint></hints>".toList givenTag h).1 (.inl hclosed)).1⟩

end DependencyEvidence
