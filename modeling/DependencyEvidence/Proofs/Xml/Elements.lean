import DependencyEvidence.Xml.Event

/-!
# Events as elements

The events of a document are the elements of a tree, written out tag by tag. A list of events **spells** elements
(`Spells`) if it is their start and end tags in order, where an empty tag stands for both.

* `Spells.unique`: events spell one document at most.
* `Reader.nested_advance`, `exists_nesting_read`: the open names of the reader are those that its events leave open, so
  that every end tag of a document fits.
* `exists_spells`: events that leave nothing open spell elements.
-/

namespace DependencyEvidence.Xml

/-! ## Elements -/

/-- Elements that stand one after another: the first one with what is inside, and those after it. -/
inductive Elements (α : Type) where
  | nil
  | cons (tag : α) (inside after : Elements α)
deriving DecidableEq, Repr

namespace Elements

variable {α β : Type}

/-- The same elements with other tags. -/
def map (f : α → β) : Elements α → Elements β
  | nil => nil
  | cons tag inside after => cons (f tag) (inside.map f) (after.map f)

/-- The tags of elements, with an end tag for every start tag. -/
def events : Elements Tag → List Event
  | nil => []
  | cons tag inside after => .opened tag :: (inside.events ++ .closed tag.name :: after.events)

end Elements

/-- The tags that an event stands for. -/
def Event.tags : Event → List Event
  | .empty tag => [.opened tag, .closed tag.name]
  | e => [e]

/-- Whether events are the tags of elements in order. -/
def Spells (events : List Event) (doc : Elements Tag) : Prop := events.flatMap Event.tags = doc.events

/-- What follows the tags of elements shows where these end, unless it goes on with a start tag. -/
theorem Elements.events_append_inj {a b : Elements Tag} {x y : List Event}
    (hx : ∀ tag, x.head? ≠ some (.opened tag)) (hy : ∀ tag, y.head? ≠ some (.opened tag))
    (h : a.events ++ x = b.events ++ y) : a = b ∧ x = y := by
  induction a generalizing b x y with
  | nil =>
    cases b with
    | nil => exact ⟨rfl, h⟩
    | cons tag inside after =>
      obtain rfl : x = _ := h
      exact absurd rfl (hx tag)
  | cons tag inside after ihInside ihAfter =>
    cases b with
    | nil =>
      obtain rfl : _ = y := h
      exact absurd rfl (hy tag)
    | cons tag' inside' after' =>
      simp only [events, List.cons_append, List.append_assoc, List.cons.injEq, Event.opened.injEq] at h
      obtain ⟨rfl, h⟩ := h
      obtain ⟨rfl, hrest⟩ := ihInside (by simp) (by simp) h
      obtain ⟨rfl, rfl⟩ := ihAfter hx hy (List.cons.inj hrest).2
      exact ⟨rfl, rfl⟩

/-- Events spell one document at most. -/
theorem Spells.unique {events : List Event} {doc doc' : Elements Tag} (h : Spells events doc)
    (h' : Spells events doc') : doc = doc' := by
  have heq : doc.events ++ [] = doc'.events ++ [] := by rw [List.append_nil, List.append_nil, ← h, ← h']
  exact (Elements.events_append_inj (by simp) (by simp) heq).1

/-! ## Open elements -/

/-- The names of the elements that are open behind an event, the innermost first. An end tag has to fit. -/
def Event.nest : List (List Char) → Event → Option (List (List Char))
  | names, .opened tag => some (tag.name :: names)
  | names, .empty _ => some names
  | innermost :: names, .closed name => if innermost = name then some names else none
  | [], .closed _ => none

/-- The names of the elements that events leave open. -/
def nesting (events : List Event) : Option (List (List Char)) := events.foldlM Event.nest []

theorem nesting_concat {events : List Event} {names : List (List Char)} (h : nesting events = some names)
    (e : Event) : nesting (events ++ [e]) = e.nest names := by
  simp [nesting, List.foldlM_append, show events.foldlM Event.nest [] = some names from h]

namespace Reader

/-- Whether the open names of a reader are those that its events leave open. -/
def Nested (r : Reader) : Prop := nesting r.done.reverse = some r.names

/-- An end tag either is a fault or ends the innermost element. -/
theorem closeElement_cases (r : Reader) (content : List Char) :
    r.closeElement content = r.into .broken ∨
    ∃ name names, r.names = name :: names ∧ r.closeElement content = ⟨.closed name :: r.done, names, .text⟩ := by
  simp only [closeElement]
  generalize (if (content.reverse.dropWhile isSpace).reverse.isEmpty then content
    else (content.reverse.dropWhile isSpace).reverse) = name
  cases r.names with
  | nil => exact .inl rfl
  | cons innermost names =>
    by_cases hname : innermost = name
    · subst hname
      exact .inr ⟨innermost, names, rfl, by simp⟩
    · exact .inl (by simp [hname])

/-- A tag either is a fault or one event that fits the open elements. -/
theorem takeTag_cases (r : Reader) (content : List Char) :
    r.takeTag content = r.into .broken ∨
    ∃ e names, e.nest r.names = some names ∧ r.takeTag content = ⟨e :: r.done, names, .text⟩ := by
  unfold takeTag
  split
  · next name =>
    rcases closeElement_cases r name with h | ⟨name, names, hnames, h⟩
    · exact .inl h
    · exact .inr ⟨.closed name, names, by simp [Event.nest, hnames], h⟩
  · split
    · exact .inr ⟨.empty _, r.names, rfl, rfl⟩
    · exact .inr ⟨.opened _, _, rfl, rfl⟩

/-- A character changes the mode, or it ends a tag. -/
theorem advance_cases (r : Reader) (c : Char) :
    (∃ mode, r.advance c = r.into mode) ∨ ∃ content, r.advance c = r.takeTag content := by
  have inTag : ∀ content quote, (∃ mode, r.advanceTag content quote c = r.into mode) ∨
      ∃ text, r.advanceTag content quote c = r.takeTag text := by
    intro content quote
    cases quote with
    | some q => exact .inl ⟨_, rfl⟩
    | none =>
      by_cases hc : c = '>'
      · exact .inr ⟨content.reverse, by simp [advanceTag, hc]⟩
      · exact .inl ⟨_, by simp [advanceTag, hc]; rfl⟩
  unfold advance
  cases hm : r.mode with
  | markup =>
    dsimp only
    split
    · exact .inl ⟨_, rfl⟩
    · split
      · exact .inl ⟨_, rfl⟩
      · exact inTag [] none
  | tag content quote => exact inTag content quote
  | text =>
    dsimp only
    split
    · exact .inl ⟨_, rfl⟩
    · exact .inl ⟨r.mode, rfl⟩
  | broken => exact .inl ⟨r.mode, rfl⟩
  | _ => refine .inl ?_; dsimp only [leave]; (repeat' split) <;> exact ⟨_, rfl⟩

/-- The reader keeps track of the elements that are open. -/
theorem nested_advance {r : Reader} (h : r.Nested) (c : Char) : (r.advance c).Nested := by
  rcases advance_cases r c with ⟨mode, hr⟩ | ⟨content, hr⟩
  · exact hr ▸ h
  · rcases takeTag_cases r content with ht | ⟨e, names, hnest, ht⟩
    · exact hr ▸ ht ▸ h
    · rw [hr, ht, Nested, List.reverse_cons, nesting_concat h e, hnest]

theorem nested_foldl (text : List Char) {r : Reader} (h : r.Nested) : (text.foldl advance r).Nested := by
  induction text generalizing r with
  | nil => exact h
  | cons c rest ih => exact ih (nested_advance h c)

end Reader

/-- Every end tag of a document that is read fits. -/
theorem exists_nesting_read (text : List Char) : ∃ names, nesting (read text).events = some names :=
  ⟨_, Reader.nested_foldl (withoutMark text) (r := .start) rfl⟩

/-- The names of the elements that are open at the end of a text, the innermost first. -/
def openAt (text : List Char) : List (List Char) := (nesting (read text).events).getD []

theorem nesting_read (text : List Char) : nesting (read text).events = some (openAt text) := by
  obtain ⟨names, hnest⟩ := exists_nesting_read text
  rw [openAt, hnest]
  rfl

/-! ## Events that leave nothing open -/

/-- The tags of elements, and behind them the ends of elements around with what stands after these. -/
def unwound (first : Elements Tag) : List (List Char × Elements Tag) → List Event
  | [] => first.events
  | (name, after) :: outer => first.events ++ .closed name :: unwound after outer

/-- Events that close all elements that are open are what is left of these. -/
theorem exists_unwound {events : List Event} {names : List (List Char)}
    (h : events.foldlM Event.nest names = some []) :
    ∃ first outer, outer.map Prod.fst = names ∧ events.flatMap Event.tags = unwound first outer := by
  induction events generalizing names with
  | nil =>
    obtain rfl : names = [] := by simpa using h
    exact ⟨.nil, [], rfl, rfl⟩
  | cons e rest ih =>
    simp only [List.foldlM_cons, Option.bind_eq_bind, Option.bind_eq_some_iff] at h
    obtain ⟨between, he, hrest⟩ := h
    obtain ⟨first, outer, hnames, hevents⟩ := ih hrest
    cases e with
    | opened tag =>
      obtain rfl : tag.name :: names = between := by simpa [Event.nest] using he
      -- the innermost of the elements around is the one that starts here
      cases outer with
      | nil => simp at hnames
      | cons o outer =>
        obtain ⟨name, after⟩ := o
        obtain ⟨rfl, houter⟩ : name = tag.name ∧ outer.map Prod.fst = names := by simpa using hnames
        refine ⟨.cons tag first after, outer, houter, ?_⟩
        cases outer <;> simp [hevents, Event.tags, unwound, Elements.events]
    | empty tag =>
      obtain rfl : names = between := by simpa [Event.nest] using he
      refine ⟨.cons tag .nil first, outer, hnames, ?_⟩
      cases outer <;> simp [hevents, Event.tags, unwound, Elements.events]
    | closed name =>
      cases names with
      | nil => simp [Event.nest] at he
      | cons innermost inner =>
        obtain ⟨rfl, rfl⟩ : innermost = name ∧ inner = between := by simpa [Event.nest] using he
        exact ⟨.nil, (innermost, first) :: outer, by simp [hnames],
          by simp [hevents, Event.tags, unwound, Elements.events]⟩

/-- Events that leave nothing open spell elements. -/
theorem exists_spells {events : List Event} (h : nesting events = some []) : ∃ doc, Spells events doc := by
  obtain ⟨first, outer, hnames, hevents⟩ := exists_unwound h
  obtain rfl : outer = [] := by simpa using hnames
  exact ⟨first, hevents⟩

end DependencyEvidence.Xml
