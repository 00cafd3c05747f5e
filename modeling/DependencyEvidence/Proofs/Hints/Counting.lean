import DependencyEvidence.Hints.Document
import DependencyEvidence.Proofs.Xml.Elements
import Mathlib.Data.List.Induction

/-!
# Counting open elements

A draft counts the open elements, and its count has 32 bits. It goes by the events alone (`Draft.foldlM_depth`), and
nothing else in a draft goes by it (`Draft.foldlM_recounted`).

* `Xml.nesting_induction`: what holds along events in which every end tag fits is shown event by event.
* `Draft.toNat_foldl_count_le`: there are never fewer open elements than the count says, so it is zero where none is.
* `Draft.toNat_foldl_count`: while fewer than 2 ^ 32 elements are open at once, the count is the number of them.
* `Draft.foldlM_congr_tags`: a document is taken as the tags that its events stand for. In the middle of a document this
  needs room for one more element (`Draft.foldlM_tags`).
-/

namespace DependencyEvidence

open Xml (Elements Event Spells Tag nesting)

/-! ## Steps one after another -/

/-- A computation of two steps gives a value if both do. -/
theorem bind_eq_ok {ε α β : Type} {x : Except ε α} {f : α → Except ε β} {b : β} :
    x >>= f = .ok b ↔ ∃ a, x = .ok a ∧ f a = .ok b := by
  cases x with
  | error e => simp [bind, Except.bind]
  | ok a => simp [bind, Except.bind]

theorem map_bind {ε α β γ : Type} (x : Except ε α) (f : α → Except ε β) (g : β → γ) :
    (x >>= f).map g = x >>= fun a => (f a).map g := by
  cases x <;> rfl

/-! ## Open elements -/

namespace Xml

/-- Whether fewer elements than a limit are open at every place among events. -/
def NestsBelow (limit : Nat) (events : List Event) : Prop :=
  ∀ before opened, before <+: events → nesting before = some opened → opened.length < limit

/-- What holds before all events, and behind each that fits if it holds before it, holds behind all of them. -/
theorem nesting_induction {P : List Event → List (List Char) → Prop} (start : P [] [])
    (step : ∀ {before e between names}, nesting before = some between → e.nest between = some names →
      P before between → P (before ++ [e]) names)
    {events : List Event} {names : List (List Char)} (h : nesting events = some names) : P events names := by
  induction events using List.reverseRecOn generalizing names with
  | nil =>
    cases h
    exact start
  | append_singleton before e ih =>
    obtain ⟨between, hbefore, he⟩ : ∃ between, nesting before = some between ∧ e.nest between = some names := by
      simpa [nesting, List.foldlM_append, Option.bind_eq_some_iff] using h
    exact step hbefore he (ih hbefore)

/-- An end tag fits if it is that of the innermost element. -/
theorem nest_closed_eq_some_iff {name : List Char} {names names' : List (List Char)} :
    (Event.closed name).nest names = some names' ↔ names = name :: names' := by
  cases names with
  | nil => simp [Event.nest]
  | cons innermost inner => simp [Event.nest]

/-- An event opens one element at most. -/
theorem length_nest_le {e : Event} {names names' : List (List Char)} (h : e.nest names = some names') :
    names'.length ≤ names.length + 1 := by
  cases e with
  | opened t | empty t =>
    cases h
    simp
  | closed name =>
    obtain rfl := nest_closed_eq_some_iff.1 h
    exact Nat.le_add_right names'.length 2

/-- There are never more open elements than events. -/
theorem length_nesting_le {events : List Event} {names : List (List Char)} (h : nesting events = some names) :
    names.length ≤ events.length := by
  refine nesting_induction (P := fun events names => names.length ≤ events.length) (Nat.le_refl 0) ?_ h
  intro before e between names hbefore he ih
  rw [List.length_append]
  exact Nat.le_trans (length_nest_le he) (Nat.succ_le_succ ih)

theorem NestsBelow.of_prefix {limit : Nat} {before events : List Event} (h : NestsBelow limit events)
    (hbefore : before <+: events) : NestsBelow limit before :=
  fun first opened hfirst => h first opened (hfirst.trans hbefore)

theorem nestsBelow_of_length {limit : Nat} {events : List Event} (h : events.length < limit) :
    NestsBelow limit events := fun _ _ hbefore hnest =>
  Nat.lt_of_le_of_lt (Nat.le_trans (length_nesting_le hnest) hbefore.length_le) h

/-- An empty tag leaves open what its start tag and its end tag do. -/
theorem foldlM_nest_tags (e : Event) (names : List (List Char)) : e.tags.foldlM Event.nest names = e.nest names := by
  cases e <;> simp [Event.tags, Event.nest]

theorem nesting_flatMap_tags (events : List Event) : nesting (events.flatMap Event.tags) = nesting events := by
  suffices h : ∀ names, (events.flatMap Event.tags).foldlM Event.nest names = events.foldlM Event.nest names from h []
  induction events with
  | nil => exact fun _ => rfl
  | cons e rest ih =>
    intro names
    rw [List.flatMap_cons, List.foldlM_append, foldlM_nest_tags, List.foldlM_cons]
    exact congrArg _ (funext ih)

/-- The tags of elements stand for themselves. -/
theorem Elements.flatMap_tags_events (doc : Elements Tag) : doc.events.flatMap Event.tags = doc.events := by
  induction doc with
  | nil => rfl
  | cons tag inside after ihInside ihAfter =>
    simp only [events, List.flatMap_cons, List.flatMap_append, ihInside, ihAfter]
    rfl

/-- The tags of elements leave open what was open before. -/
theorem Elements.foldlM_nest_events (doc : Elements Tag) (names : List (List Char)) :
    doc.events.foldlM Event.nest names = some names := by
  induction doc generalizing names with
  | nil => rfl
  | cons tag inside after ihInside ihAfter =>
    rw [events, List.foldlM_cons]
    simp [Event.nest, List.foldlM_append, ihInside, ihAfter]

/-- Events that spell elements leave none of them open. -/
theorem Spells.nesting {events : List Event} {doc : Elements Tag} (h : Spells events doc) :
    Xml.nesting events = some [] := by
  rw [← nesting_flatMap_tags, show events.flatMap Event.tags = doc.events from h]
  exact doc.foldlM_nest_events []

end Xml

namespace Draft

/-! ## The count and the rest of a draft -/

/-- The count behind an event. -/
def count (n : UInt32) : Event → UInt32
  | .opened _ => n + 1
  | .empty _ => n
  | .closed _ => shallower n

/-- A draft with another count. -/
def recounted (d : Draft) (n : UInt32) : Draft := { d with depth := n }

theorem enter_recounted (d : Draft) (n : UInt32) (t : Tag) :
    (d.recounted n).enter t = (d.enter t).map (·.recounted n) := by
  simp only [enter, recounted]
  split
  case h_1 | h_2 | h_3 | h_4 | h_8 => rfl
  case h_5 | h_6 | h_7 =>
    simp only [map_bind]
    rfl

theorem finishElement_recounted (d : Draft) (n : UInt32) (name : String) :
    (d.recounted n).finishElement name = (d.finishElement name).recounted n := by
  obtain ⟨rules, rootSeen, depth, current, part⟩ := d
  unfold finishElement
  split
  · rfl
  · split
    · cases current <;> rfl
    · rfl

theorem close_recounted (d : Draft) (n : UInt32) (name : List Char) :
    (d.recounted n).close name = (d.finishElement (Xml.localName name)).recounted (shallower n) := by
  rw [close, finishElement_recounted]
  rfl

theorem step_recounted (d : Draft) (n : UInt32) (e : Event) :
    (d.recounted n).step e = (d.step e).map (·.recounted (count n e)) := by
  have hopen : ∀ t isEmpty, (d.recounted n).open? t isEmpty =
      (d.open? t isEmpty).map (·.recounted (if isEmpty then n else n + 1)) := by
    intro t isEmpty
    simp only [open?]
    have hseen : (d.recounted n).rootSeen = d.rootSeen := rfl
    rw [hseen, enter_recounted]
    split
    · cases d.enter t with
      | error e => rfl
      | ok d₁ =>
        cases isEmpty with
        | true => exact congrArg Except.ok (finishElement_recounted d₁ n _)
        | false => rfl
    · split
      · cases attributesOf t with
        | error e => rfl
        | ok a =>
          simp only [bind, Except.bind]
          cases checkVersion a <;> rfl
      · rfl
  cases e with
  | opened t => exact hopen t false
  | empty t => exact hopen t true
  | closed name => exact congrArg Except.ok (close_recounted d n name)

/-- What becomes of a draft does not go by its count. -/
theorem foldlM_recounted (events : List Event) (d : Draft) (n : UInt32) :
    events.foldlM step (d.recounted n) = (events.foldlM step d).map (·.recounted (events.foldl count n)) := by
  induction events generalizing d n with
  | nil => rfl
  | cons e rest ih =>
    rw [List.foldlM_cons, List.foldlM_cons, List.foldl_cons, step_recounted]
    cases d.step e with
    | error error => rfl
    | ok d₁ => exact ih d₁ _

/-- The count goes by the events alone. -/
theorem foldlM_depth {events : List Event} {d d' : Draft} (h : events.foldlM step d = .ok d') :
    d'.depth = events.foldl count d.depth := by
  have hsame := foldlM_recounted events d d.depth
  have hd : d.recounted d.depth = d := rfl
  rw [hd, h] at hsame
  exact congrArg Draft.depth (Except.ok.inj hsame)

/-! ## The count and the open elements -/

theorem toNat_shallower (n : UInt32) : (shallower n).toNat = n.toNat - 1 := by
  unfold shallower
  split
  · next h => simp [h]
  · next h =>
    have hpos : (1 : UInt32).toNat ≤ n.toNat := Nat.pos_of_ne_zero fun hzero => h (UInt32.toNat_inj.1 hzero)
    exact UInt32.toNat_sub_of_le n 1 (UInt32.le_iff_toNat_le.2 hpos)

theorem toNat_add_one {n : UInt32} (h : n.toNat + 1 < UInt32.size) : (n + 1).toNat = n.toNat + 1 := by
  rw [UInt32.toNat_add]
  exact Nat.mod_eq_of_lt h

/-- An end tag takes back what its start tag did to the count, unless it was full. -/
theorem shallower_add_one {n : UInt32} (h : n.toNat + 1 < UInt32.size) : shallower (n + 1) = n :=
  UInt32.toNat_inj.1 (by rw [toNat_shallower, toNat_add_one h, Nat.add_sub_cancel])

variable {e : Event} {n : UInt32} {names names' : List (List Char)}

theorem toNat_count_le (hnest : e.nest names = some names') (h : n.toNat ≤ names.length) :
    (count n e).toNat ≤ names'.length := by
  cases e with
  | opened t =>
    cases hnest
    have hle : (n + 1).toNat ≤ n.toNat + 1 := by
      rw [UInt32.toNat_add]
      exact Nat.mod_le _ _
    exact Nat.le_trans hle (Nat.succ_le_succ h)
  | empty t =>
    cases hnest
    exact h
  | closed name =>
    obtain rfl := Xml.nest_closed_eq_some_iff.1 hnest
    rw [count, toNat_shallower]
    exact Nat.sub_le_of_le_add h

theorem toNat_count (hnest : e.nest names = some names') (hroom : names'.length < UInt32.size)
    (h : n.toNat = names.length) : (count n e).toNat = names'.length := by
  cases e with
  | opened t =>
    cases hnest
    rw [List.length_cons, ← h] at hroom ⊢
    exact toNat_add_one hroom
  | empty t =>
    cases hnest
    exact h
  | closed name =>
    obtain rfl := Xml.nest_closed_eq_some_iff.1 hnest
    rw [count, toNat_shallower, h]
    rfl

variable {events : List Event}

/-- There are never fewer open elements than the count says. -/
theorem toNat_foldl_count_le (h : nesting events = some names) : (events.foldl count 0).toNat ≤ names.length := by
  refine Xml.nesting_induction (P := fun events names => (events.foldl count 0).toNat ≤ names.length)
    (Nat.le_refl 0) ?_ h
  intro before e between names hbefore he ih
  rw [List.foldl_append, List.foldl_cons, List.foldl_nil]
  exact toNat_count_le he ih

/-- The count is the number of open elements while it has room for it. -/
theorem toNat_foldl_count (h : nesting events = some names) (hroom : Xml.NestsBelow UInt32.size events) :
    (events.foldl count 0).toNat = names.length := by
  refine Xml.nesting_induction
    (P := fun events names => Xml.NestsBelow UInt32.size events → (events.foldl count 0).toNat = names.length)
    (fun _ => rfl) ?_ h hroom
  intro before e between names hbefore he ih hroom
  have hnames : names.length < UInt32.size :=
    hroom (before ++ [e]) names (List.prefix_refl _) ((Xml.nesting_concat hbefore e).trans he)
  rw [List.foldl_append, List.foldl_cons, List.foldl_nil]
  exact toNat_count he hnames (ih (hroom.of_prefix (List.prefix_append _ _)))

/-- Where nothing is open, the count is zero. -/
theorem foldl_count_of_nil (h : nesting events = some []) : events.foldl count 0 = 0 :=
  UInt32.toNat_inj.1 (Nat.le_zero.1 (toNat_foldl_count_le h))

/-! ## Empty tags -/

theorem enter_depth {d d' : Draft} {t : Tag} (h : d.enter t = .ok d') : d'.depth = d.depth := by
  have hsame := enter_recounted d d.depth t
  have hd : d.recounted d.depth = d := rfl
  rw [hd, h] at hsame
  have hkept : d' = d'.recounted d.depth := Except.ok.inj hsame
  rw [hkept]
  rfl

/-- An empty tag is taken as a start tag and its end tag, but for the count. -/
theorem foldlM_tags_recounted (d : Draft) (e : Event) :
    e.tags.foldlM step d = (d.step e).map (·.recounted (e.tags.foldl count d.depth)) := by
  have hsingle : [e].foldlM step d = (d.step e).map (·.recounted ([e].foldl count d.depth)) := by
    have hone : [e].foldlM step d = d.step e := by simp
    have hsame := step_recounted d d.depth e
    rw [hone]
    exact hsame
  cases e with
  | opened t => exact hsingle
  | closed name => exact hsingle
  | empty t =>
    simp only [Event.tags, List.foldlM_cons, List.foldlM_nil, step, open?, bind_pure]
    by_cases hroot : d.rootSeen
    · cases he : d.enter t with
      | error e => simp [hroot, bind, Except.bind, Except.map]
      | ok d₁ =>
        have hclose := close_recounted d₁ (d₁.depth + 1) t.name
        rw [enter_depth he] at hclose
        simp only [hroot, if_true, bind, Except.bind, enter_depth he]
        exact congrArg Except.ok hclose
    · by_cases hname : Xml.localName t.name = "hints"
      · cases ha : attributesOf t with
        | error e => simp [hroot, hname, bind, Except.bind, Except.map]
        | ok a =>
          cases hv : checkVersion a with
          | error e => simp [hroot, hname, hv, bind, Except.bind, Except.map]
          | ok =>
            simp [hroot, hname, hv, bind, Except.bind, Except.map, close, finishElement, recounted, count]
      · simp [hroot, hname, bind, Except.bind, Except.map]

/-- An empty tag is taken as a start tag and its end tag, if the count has room for one more element. -/
theorem foldlM_tags {d : Draft} (hroom : d.depth.toNat + 1 < UInt32.size) (e : Event) :
    e.tags.foldlM step d = d.step e := by
  have hcount : e.tags.foldl count d.depth = count d.depth e := by
    cases e with
    | opened t => rfl
    | closed name => rfl
    | empty t => exact shallower_add_one hroom
  rw [foldlM_tags_recounted, hcount, ← step_recounted]
  rfl

theorem foldlM_flatMap_tags_recounted (events : List Event) (d : Draft) :
    (events.flatMap Event.tags).foldlM step d =
      (events.foldlM step d).map (·.recounted ((events.flatMap Event.tags).foldl count d.depth)) := by
  induction events generalizing d with
  | nil => rfl
  | cons e rest ih =>
    rw [List.flatMap_cons, List.foldlM_append, foldlM_tags_recounted, List.foldl_append, List.foldlM_cons]
    cases hstep : d.step e with
    | error error => rfl
    | ok d₁ =>
      refine (ih _).trans ?_
      rw [foldlM_recounted]
      show Except.map _ (Except.map _ (rest.foldlM step d₁)) = Except.map _ (rest.foldlM step d₁)
      cases rest.foldlM step d₁ <;> rfl

/-- The events of a document are taken as the tags that they stand for. -/
theorem foldlM_congr_tags {events events' : List Event} (h : events.flatMap Event.tags = events'.flatMap Event.tags)
    (hclosed : nesting events = some []) : events.foldlM step .start = events'.foldlM step .start := by
  have hclosed' : nesting events' = some [] := by
    rw [← Xml.nesting_flatMap_tags, ← h, Xml.nesting_flatMap_tags, hclosed]
  have hzero : ∀ {events : List Event}, nesting events = some [] →
      (events.flatMap Event.tags).foldlM step .start = events.foldlM step .start := by
    intro events hclosed
    rw [foldlM_flatMap_tags_recounted]
    cases hfold : events.foldlM step .start with
    | error error => rfl
    | ok d =>
      have hdepth : d.depth = 0 := (foldlM_depth hfold).trans (foldl_count_of_nil hclosed)
      have hcount : (events.flatMap Event.tags).foldl count start.depth = 0 :=
        foldl_count_of_nil ((Xml.nesting_flatMap_tags events).trans hclosed)
      rw [hcount, ← hdepth]
      rfl
  rw [← hzero hclosed, h, hzero hclosed']

/-- A document is taken as the elements that it spells. -/
theorem foldlM_of_spells {doc : Elements Tag} (h : Spells events doc) :
    events.foldlM step .start = doc.events.foldlM step .start :=
  foldlM_congr_tags (h.trans doc.flatMap_tags_events.symm) h.nesting

end Draft

end DependencyEvidence
