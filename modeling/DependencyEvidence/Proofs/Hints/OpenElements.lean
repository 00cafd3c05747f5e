import DependencyEvidence.Proofs.Hints.Format

/-!
# Drafts and the elements that are open

A draft has no stack of open elements. It counts them, and of those that are no leaves it holds the part and the hint
that it is in. Along the events of a document, in which every end tag fits, the part and the hint are the open elements
that are neither leaves nor the root (`Draft.Fits`), and the count is the number of open elements while it has room for
them.

* `Draft.entered_of_enter`: what a draft becomes when it takes an element, one case for each kind of element.
* `Draft.step_fits`, `Draft.foldlM_fits`: every event that is taken keeps a draft fitting, and so do all of them.
* `RuleSet.ofReading_of_open`: so a document that ends while elements are open, or before one was opened, is refused.
* `RuleSet.ofReading_of_prefix`: and no part of a document from its start on is taken for the document.
* `RuleSet.ofReading_prefix_wrapped`: unless 2 ^ 32 elements are open at once, where the count starts again.
-/

namespace DependencyEvidence

open Xml (Event Tag nesting)

/-! ## Open elements -/

/-- Whether an event is the start of an element. -/
def Xml.Event.opens : Event → Bool
  | .opened _ => true
  | .empty _ => true
  | .closed _ => false

/-- The names of open elements but for leaves, the innermost first. -/
def openNames (names : List (List Char)) : List String := (names.map Xml.localName).filter (· ∉ leafNames)

theorem openNames_leaf {name : List Char} (h : Xml.localName name ∈ leafNames) (names : List (List Char)) :
    openNames (name :: names) = openNames names := by
  simp [openNames, h]

theorem openNames_cons {name : List Char} (h : Xml.localName name ∉ leafNames) (names : List (List Char)) :
    openNames (name :: names) = Xml.localName name :: openNames names := by
  simp [openNames, h]

theorem Part.name_notMem_leafNames (p : Part) : p.name ∉ leafNames := by cases p <;> decide

/-- What comes before a document with fitting end tags has fitting end tags. -/
theorem exists_nesting_of_prefix {events before : List Event} {names : List (List Char)}
    (h : nesting events = some names) (hbefore : before <+: events) : ∃ opened, nesting before = some opened := by
  obtain ⟨after, rfl⟩ := hbefore
  rw [nesting, List.foldlM_append] at h
  obtain ⟨opened, hopened, -⟩ := Option.bind_eq_some_iff.1 h
  exact ⟨opened, hopened⟩

/-- Fitting end tags end nothing where nothing starts. -/
theorem eq_nil_of_not_opens {events : List Event} {names : List (List Char)} (h : nesting events = some names)
    (hopens : ∀ e ∈ events, e.opens = false) : events = [] := by
  cases events with
  | nil => rfl
  | cons e rest =>
    have he : e.opens = false := hopens e List.mem_cons_self
    cases e with
    | opened t => cases he
    | empty t => cases he
    | closed name => cases h

namespace Draft

/-! ## What a draft does with an element -/

/-- What a draft becomes when it takes an element within the root. -/
inductive Entered (d : Draft) (t : Tag) : Draft → Prop
  | hint (named : Xml.localName t.name = "hint") (outside : d.current = none) (between : d.part = none) :
      Entered d t { d with current := some .empty }
  | part {p : Part} {rule : HintRule} (named : Xml.localName t.name = p.name) (inside : d.current = some rule)
      (between : d.part = none) : Entered d t { d with part := some p }
  | evidence {p : Part} {rule : HintRule} {a : Xml.Attributes} {axis : Axis} {e : Evidence}
      (named : Xml.localName t.name = "evidence") (inside : d.current = some rule) (within : d.part = some p)
      (attributes : attributesOf t = .ok a) (read : readEvidence a p = .ok (axis, e)) :
      Entered d t { d with current := some (rule.push p axis e) }
  | fileName {rule : HintRule} {a : Xml.Attributes} {p : FilenamePattern}
      (named : Xml.localName t.name = "fileName") (inside : d.current = some rule) (within : d.part = some .given)
      (attributes : attributesOf t = .ok a) (read : readPattern a = .ok p) :
      Entered d t { d with current := some { rule with patterns := rule.patterns ++ [p] } }
  | duplication {a : Xml.Attributes} {r : Duplication} (named : Xml.localName t.name = "vendorDuplicatingHint")
      (outside : d.current = none) (between : d.part = none) (attributes : attributesOf t = .ok a)
      (read : readDuplication a = .ok r) :
      Entered d t { d with rules := { d.rules with duplications := d.rules.duplications ++ [r] } }

/-- An element is taken in one of these ways only. -/
theorem entered_of_enter {d d' : Draft} {t : Tag} (h : d.enter t = .ok d') : d.Entered t d' := by
  simp only [enter] at h
  split at h
  case h_1 named outside between =>
    cases h
    exact .hint named outside between
  case h_2 named inside between | h_3 named inside between | h_4 named inside between =>
    cases h
    exact .part named inside between
  case h_5 named inside within =>
    obtain ⟨a, ha, ⟨axis, e⟩, he, h⟩ := by simpa only [bind_eq_ok] using h
    cases h
    exact .evidence named inside within ha he
  case h_6 named inside within =>
    obtain ⟨a, ha, p, hp, h⟩ := by simpa only [bind_eq_ok] using h
    cases h
    exact .fileName named inside within ha hp
  case h_7 named outside between =>
    obtain ⟨a, ha, r, hr, h⟩ := by simpa only [bind_eq_ok] using h
    cases h
    exact .duplication named outside between ha hr
  case h_8 => cases h

/-! ## Drafts that fit -/

/-- The names of the elements that a draft holds, the innermost first. -/
def heldNames (d : Draft) : List String :=
  match d.current, d.part with
  | none, _ => []
  | some _, none => ["hint"]
  | some _, some p => [p.name, "hint"]

/-- Whether a draft fits the open elements: but for leaves they are the elements that it holds and the root, which is
not among them any more when it has ended. -/
structure Fits (d : Draft) (names : List (List Char)) : Prop where
  part : d.part.isSome → d.current.isSome
  held : openNames names = d.heldNames ∨ openNames names = d.heldNames ++ ["hints"]
  seen : names ≠ [] → d.rootSeen

theorem fits_start : start.Fits [] := ⟨fun h => h, .inl rfl, fun h => absurd rfl h⟩

variable {d d' : Draft} {names names' : List (List Char)}

/-- What a draft holds does not go by its count. -/
theorem fits_recounted {n : UInt32} (h : (d.recounted n).Fits names) : d.Fits names := ⟨h.part, h.held, h.seen⟩

/-- An element that is taken is a leaf, or it is the next one that the draft holds. -/
theorem Entered.heldNames {t : Tag} (h : d.Entered t d') (names : List (List Char)) :
    openNames (t.name :: names) = openNames names ∧ d'.heldNames = d.heldNames ∨
      openNames (t.name :: names) = Xml.localName t.name :: openNames names ∧
        d'.heldNames = Xml.localName t.name :: d.heldNames := by
  cases h with
  | hint named outside between =>
    refine .inr ⟨openNames_cons (by rw [named]; decide) names, ?_⟩
    simp [Draft.heldNames, named, outside, between]
  | @part p _ named inside between =>
    refine .inr ⟨openNames_cons (named ▸ p.name_notMem_leafNames) names, ?_⟩
    simp [Draft.heldNames, named, inside, between]
  | evidence named inside within =>
    refine .inl ⟨openNames_leaf (by rw [named]; decide) names, ?_⟩
    simp [Draft.heldNames, inside, within]
  | fileName named inside within =>
    refine .inl ⟨openNames_leaf (by rw [named]; decide) names, ?_⟩
    simp [Draft.heldNames, inside, within]
  | duplication named outside between =>
    refine .inl ⟨openNames_leaf (by rw [named]; decide) names, ?_⟩
    simp [Draft.heldNames, outside]

/-- Behind an element that is taken, a part is set within a hint only. -/
theorem Entered.inside {t : Tag} (h : d.Entered t d') : d'.part.isSome → d'.current.isSome := by
  cases h with
  | hint => exact fun _ => rfl
  | part named inside between => exact fun _ => by simp [inside]
  | evidence => exact fun _ => rfl
  | fileName => exact fun _ => rfl
  | duplication named outside between => exact fun hpart => by simp [between] at hpart

/-- A start tag that is taken opens an element. -/
theorem Fits.opened {t : Tag} (hd : d.Fits names) (h : d.step (.opened t) = .ok d') : d'.Fits (t.name :: names) := by
  simp only [step, open?] at h
  split at h
  · next hseen =>
    obtain ⟨d₁, henter, h⟩ := bind_eq_ok.1 h
    cases h
    have hentered := entered_of_enter henter
    obtain ⟨-, -, hroot⟩ := enter_place henter
    refine ⟨hentered.inside, ?_, fun _ => hroot.trans hseen⟩
    show openNames _ = d₁.heldNames ∨ openNames _ = d₁.heldNames ++ _
    rcases hentered.heldNames names with ⟨hopen, hheld⟩ | ⟨hopen, hheld⟩
    · rw [hopen, hheld]
      exact hd.held
    · rw [hopen, hheld]
      exact hd.held.imp (congrArg _) (congrArg _)
  · next hseen =>
    split at h
    · next hname =>
      obtain ⟨a, -, _, -, h⟩ := by simpa only [bind_eq_ok] using h
      cases h
      -- nothing is open before the root
      obtain rfl : names = [] := by_contra fun hne => hseen (hd.seen hne)
      have hheld : d.heldNames = [] := by simpa [openNames] using hd.held
      refine ⟨hd.part, .inr ?_, fun _ => rfl⟩
      show openNames _ = d.heldNames ++ _
      rw [hheld, openNames_cons (by rw [hname]; decide), hname]
      rfl
    · cases h

/-- The end of a leaf finishes nothing. -/
theorem finishElement_leaf (d : Draft) {name : String} (h : name ∈ leafNames) : d.finishElement name = d := by
  simp only [leafNames, List.mem_cons, List.not_mem_nil, or_false] at h
  rcases h with rfl | rfl | rfl <;> rfl

/-- The end of an element that is no leaf finishes what the draft holds last, or ends the root. -/
theorem Fits.finishElement {name : List Char} (hd : d.Fits (name :: names))
    (hleaf : Xml.localName name ∉ leafNames) :
    ((d.finishElement (Xml.localName name)).part.isSome → (d.finishElement (Xml.localName name)).current.isSome) ∧
      (openNames names = (d.finishElement (Xml.localName name)).heldNames ∨
        openNames names = (d.finishElement (Xml.localName name)).heldNames ++ ["hints"]) := by
  obtain ⟨hpart, hheld, -⟩ := hd
  rw [openNames_cons hleaf] at hheld
  generalize Xml.localName name = word at hheld
  obtain ⟨rules, rootSeen, depth, current, part⟩ := d
  cases current with
  | none =>
    obtain rfl : part = none := by simpa using hpart
    obtain ⟨rfl, hnames⟩ : word = "hints" ∧ openNames names = [] := by simpa [Draft.heldNames] using hheld
    exact ⟨fun h => absurd h (by simp [Draft.finishElement]), .inl hnames⟩
  | some rule =>
    cases part with
    | none =>
      obtain ⟨rfl, hnames⟩ : word = "hint" ∧ (openNames names = [] ∨ openNames names = ["hints"]) := by
        simpa [Draft.heldNames, and_or_left] using hheld
      exact ⟨fun h => absurd h (by simp [Draft.finishElement]), hnames⟩
    | some p =>
      obtain ⟨rfl, hnames⟩ : word = p.name ∧ (openNames names = ["hint"] ∨ openNames names = ["hint", "hints"]) := by
        simpa [Draft.heldNames, and_or_left] using hheld
      have hfinish : Draft.finishElement ⟨rules, rootSeen, depth, some rule, some p⟩ p.name =
          ⟨rules, rootSeen, depth, some rule, none⟩ := by
        cases p <;> rfl
      rw [hfinish]
      exact ⟨fun _ => rfl, hnames⟩

/-- An end tag that fits closes the innermost element. -/
theorem Fits.closed {name : List Char} (hd : d.Fits (name :: names)) : (d.close name).Fits names := by
  have hseen : (d.close name).rootSeen :=
    (rootSeen_finishElement d _).trans (hd.seen (List.cons_ne_nil _ _))
  by_cases hleaf : Xml.localName name ∈ leafNames
  · have hfinish := finishElement_leaf d hleaf
    refine ⟨?_, ?_, fun _ => hseen⟩
    · simpa [close, hfinish] using hd.part
    · have hheld := hd.held
      rw [openNames_leaf hleaf] at hheld
      simpa [close, hfinish, heldNames] using hheld
  · obtain ⟨hpart, hheld⟩ := hd.finishElement hleaf
    exact ⟨hpart, hheld, fun _ => hseen⟩

/-- Every event that is taken, and whose end tag fits, keeps a draft fitting. -/
theorem step_fits {e : Event} (hd : d.Fits names) (hnest : e.nest names = some names') (h : d.step e = .ok d') :
    d'.Fits names' := by
  cases e with
  | opened t =>
    cases hnest
    exact hd.opened h
  | empty t =>
    cases hnest
    -- an empty tag is a start tag and its end tag, but for the count
    have htags := foldlM_tags_recounted d (.empty t)
    rw [h] at htags
    obtain ⟨d₁, hopen, hclose⟩ := bind_eq_ok.1 htags
    have hclose : d₁.close t.name = d'.recounted _ := Except.ok.inj hclose
    exact fits_recounted (hclose ▸ (hd.opened hopen).closed)
  | closed name =>
    cases h
    obtain rfl := Xml.nest_closed_eq_some_iff.1 hnest
    exact hd.closed

theorem foldlM_fits {events : List Event} (hnest : nesting events = some names)
    (h : events.foldlM step .start = .ok d) : d.Fits names := by
  refine Xml.nesting_induction (P := fun events names => ∀ d, events.foldlM step .start = .ok d → d.Fits names)
    ?_ ?_ hnest d h
  · intro d h
    cases h
    exact fits_start
  · intro before e between names hbefore he ih d' h
    obtain ⟨d, hfold, hstep⟩ : ∃ d, before.foldlM step .start = .ok d ∧ d.step e = .ok d' := by
      simpa [List.foldlM_append, bind_eq_ok] using h
    exact step_fits (ih d hfold) he hstep

/-- Of the open elements, those that are hints are as many as the draft holds. -/
theorem Fits.count_hint (hd : d.Fits names) :
    (names.map Xml.localName).count "hint" = if d.current.isSome then 1 else 0 := by
  have hcount : (openNames names).count "hint" = (names.map Xml.localName).count "hint" :=
    List.count_filter (by decide)
  have hheld : (openNames names).count "hint" = d.heldNames.count "hint" := by
    rcases hd.held with h | h <;> rw [h]
    rw [List.count_append]
    rfl
  rw [← hcount, hheld, heldNames]
  cases d.current with
  | none => rfl
  | some rule =>
    cases d.part with
    | none => rfl
    | some p => cases p <;> rfl

/-- The element of the part that a draft is in is open. -/
theorem Fits.name_mem (hd : d.Fits names) {p : Part} (hp : d.part = some p) : p.name ∈ names.map Xml.localName := by
  obtain ⟨rule, hrule⟩ : ∃ rule, d.current = some rule := Option.isSome_iff_exists.1 (hd.part (by rw [hp]; rfl))
  have hopen : p.name ∈ openNames names := by
    rcases hd.held with h | h <;> simp [h, heldNames, hrule, hp]
  exact List.mem_of_mem_filter hopen

end Draft

/-! ## Documents that end too early -/

namespace RuleSet

section TooEarly

variable {events : List Event} {opened : List (List Char)}

/-- Events are refused if behind them the count of open elements is not zero, or a hint is open. -/
theorem ofReading_eq_error (hcount : events.foldl Draft.count 0 ≠ 0 ∨ "hint" ∈ opened.map Xml.localName)
    (hnest : nesting events = some opened) (complete : Bool) :
    ∃ error, ofReading ⟨events, complete⟩ = .error error := by
  cases hfold : events.foldlM Draft.step .start with
  | error error => exact ⟨error, by rw [ofReading, hfold]; rfl⟩
  | ok d =>
    have hunfinished : d.depth ≠ 0 ∨ d.current.isSome := by
      refine hcount.imp (fun hcount => ?_) fun hhint => ?_
      · rw [Draft.foldlM_depth hfold]
        exact hcount
      · have hheld := (Draft.foldlM_fits hnest hfold).count_hint
        by_contra hnone
        rw [if_neg hnone, List.count_eq_zero] at hheld
        exact hheld hhint
    have hfinish : ∃ error, d.finish = .error error := by
      by_cases hseen : d.rootSeen
      · exact ⟨.malformed, by simp only [Draft.finish, hseen, Bool.not_true, if_pos hunfinished]; rfl⟩
      · exact ⟨.invalid .missingRoot, by simp [Draft.finish, hseen]⟩
    cases complete with
    | true => simpa [ofReading, hfold] using hfinish
    | false => exact ⟨.malformed, by simp [ofReading, hfold]⟩

/-- A document that ends while a hint is open, or while any element is and the count had room for all of them, or before
an element was opened, is refused. -/
theorem ofReading_of_open (hnest : nesting events = some opened)
    (h : (∀ e ∈ events, e.opens = false) ∨ "hint" ∈ opened.map Xml.localName ∨
      opened ≠ [] ∧ Xml.NestsBelow UInt32.size events) (complete : Bool) :
    ∃ error, ofReading ⟨events, complete⟩ = .error error := by
  rcases h with hopens | hhint | ⟨hopen, hroom⟩
  · obtain rfl := eq_nil_of_not_opens hnest hopens
    cases complete <;> exact ⟨_, rfl⟩
  · exact ofReading_eq_error (.inr hhint) hnest complete
  · refine ofReading_eq_error (.inl fun hzero => hopen (List.eq_nil_of_length_eq_zero ?_)) hnest complete
    rw [← Draft.toNat_foldl_count hnest hroom, hzero]
    rfl

end TooEarly

/-- **No part of a document gives rules in place of the document, while fewer than 2 ^ 32 elements are open at once.**
The events before any place of a document leave some elements open. A draft that has taken these events has not counted
more than these, and if there never were 2 ^ 32 open elements, it has counted all of them; it is in a part only while it
is in a hint, and while the element of that part is open; and it is in a hint exactly while one of the open elements is
a hint, which then is the only one. If nothing has been opened yet, or a hint is open, or anything is open and there
never were 2 ^ 32 open elements, the events are refused, whether or not the text goes on behind them. -/
theorem ofReading_of_prefix {events before : List Event} {names : List (List Char)}
    (hnest : nesting events = some names) (hbefore : before <+: events) :
    ∃ opened, nesting before = some opened ∧
      (∀ d, before.foldlM Draft.step .start = .ok d →
        d.depth.toNat ≤ opened.length ∧
        (Xml.NestsBelow UInt32.size before → d.depth.toNat = opened.length) ∧
        (∀ p, d.part = some p → d.current.isSome ∧ p.name ∈ opened.map Xml.localName) ∧
        (opened.map Xml.localName).count "hint" = if d.current.isSome then 1 else 0) ∧
      ((∀ e ∈ before, e.opens = false) ∨ "hint" ∈ opened.map Xml.localName ∨
          opened ≠ [] ∧ Xml.NestsBelow UInt32.size before →
        ∀ complete, ∃ error, ofReading ⟨before, complete⟩ = .error error) := by
  obtain ⟨opened, hopened⟩ := exists_nesting_of_prefix hnest hbefore
  refine ⟨opened, hopened, fun d hfold => ?_, fun h complete => ofReading_of_open hopened h complete⟩
  have hfits : d.Fits opened := Draft.foldlM_fits hopened hfold
  have hdepth := Draft.foldlM_depth hfold
  refine ⟨?_, fun hroom => ?_, fun p hp => ?_, hfits.count_hint⟩
  · rw [hdepth]
    exact Draft.toNat_foldl_count_le hopened
  · rw [hdepth]
    exact Draft.toNat_foldl_count hopened hroom
  · have hinside : d.current.isSome := hfits.part (by rw [hp]; rfl)
    exact ⟨hinside, hfits.name_mem hp⟩

/-- The start tags of a root and of a hint in it. -/
def hintStart : List Event := [.opened ⟨"hints".toList, []⟩, .opened ⟨"hint".toList, []⟩]

theorem ofReading_of_prefix_hint :
    nesting (hintStart ++ [.closed "hint".toList, .closed "hints".toList]) = some [] ∧
    nesting hintStart = some ["hint".toList, "hints".toList] ∧
    (∃ d, hintStart.foldlM Draft.step .start = .ok d ∧ d.depth.toNat = 2 ∧ d.current.isSome) ∧
    ∀ complete, ∃ error, ofReading ⟨hintStart, complete⟩ = .error error := by
  have hnest : nesting (hintStart ++ [.closed "hint".toList, .closed "hints".toList]) = some [] := by decide
  have hstart : nesting hintStart = some ["hint".toList, "hints".toList] := by decide
  obtain ⟨opened, hopened, hdraft, herror⟩ := ofReading_of_prefix hnest (List.prefix_append hintStart _)
  obtain rfl : _ = opened := Option.some.inj (hstart.symm.trans hopened)
  have hok : (hintStart.foldlM Draft.step .start).isOk = true := by decide +kernel
  obtain ⟨d, hfold⟩ := exists_eq_ok_of_isOk hok
  have hroom : Xml.NestsBelow UInt32.size hintStart := Xml.nestsBelow_of_length (by decide)
  obtain ⟨-, hdepth, -, hcount⟩ := hdraft d hfold
  have hcurrent : d.current.isSome := by
    by_contra hnone
    rw [if_neg hnone] at hcount
    exact absurd hcount (by decide)
  exact ⟨hnest, hstart, ⟨d, hfold, hdepth hroom, hcurrent⟩,
    herror (.inr (.inr ⟨List.cons_ne_nil _ _, hroom⟩))⟩

end RuleSet

/-! ## A count that starts again -/

open Sample (duplicating)

/-- The start tags of a root and of so many duplications, each within the one before. -/
def duplicatingStarts (n : Nat) : List Event :=
  .opened Sample.root.tag :: List.replicate n (.opened duplicating.tag)

/-- The end tags of as many duplications, and of the root. -/
def duplicatingEnds (n : Nat) : List Event :=
  List.replicate n (.closed duplicating.tag.name) ++ [.closed Sample.root.tag.name]

/-- The names of as many duplications and of the root around them. -/
def duplicatingNames (n : Nat) : List (List Char) := List.replicate n duplicating.tag.name ++ [Sample.root.tag.name]

theorem length_duplicatingNames (n : Nat) : (duplicatingNames n).length = n + 1 := by
  simp [duplicatingNames]

theorem nesting_duplicatingStarts (n : Nat) : nesting (duplicatingStarts n) = some (duplicatingNames n) := by
  induction n with
  | zero => rfl
  | succ n ih =>
    rw [duplicatingStarts, List.replicate_succ', ← List.cons_append]
    exact Xml.nesting_concat ih _

theorem nesting_duplicating (n : Nat) : nesting (duplicatingStarts n ++ duplicatingEnds n) = some [] := by
  have hends : (duplicatingEnds n).foldlM Event.nest (duplicatingNames n) = some [] := by
    induction n with
    | zero => rfl
    | succ n ih =>
      rw [duplicatingEnds, duplicatingNames, List.replicate_succ, List.replicate_succ, List.cons_append,
        List.cons_append, List.foldlM_cons, Xml.nest_closed_eq_some_iff.2 rfl]
      exact ih
  have hstarts : (duplicatingStarts n).foldlM Event.nest [] = some (duplicatingNames n) := nesting_duplicatingStarts n
  rw [nesting, List.foldlM_append, hstarts]
  exact hends

/-- Every duplication that starts is taken, and counted. -/
theorem Draft.foldlM_replicate_duplicating (n : Nat) (rules : RuleSet) (depth : UInt32) :
    (List.replicate n (Event.opened duplicating.tag)).foldlM step ⟨rules, true, depth, none, none⟩ =
      .ok ⟨{ rules with duplications := rules.duplications ++ List.replicate n ⟨"a", "b"⟩ }, true,
        depth + UInt32.ofNat n, none, none⟩ := by
  induction n generalizing rules depth with
  | zero => simp
  | succ n ih =>
    have hstep : step ⟨rules, true, depth, none, none⟩ (.opened duplicating.tag) =
        .ok ⟨{ rules with duplications := rules.duplications ++ [⟨"a", "b"⟩] }, true, depth + 1, none, none⟩ := by
      have henter : enter ⟨rules, true, depth, none, none⟩ duplicating.tag =
          .ok ⟨{ rules with duplications := rules.duplications ++ [⟨"a", "b"⟩] }, true, depth, none, none⟩ :=
        enter_duplication (by decide) ⟨by decide, by decide⟩
      simp [step, open?, henter]
    have hcount : depth + 1 + UInt32.ofNat n = depth + UInt32.ofNat (n + 1) := by
      rw [UInt32.ofNat_add, UInt32.add_assoc, UInt32.add_comm 1]
      rfl
    rw [List.replicate_succ, List.foldlM_cons, hstep, ok_bind, ih, hcount]
    simp [List.replicate_succ]

namespace RuleSet

/-- Where as many elements are open as make the count zero, what is there of a document is taken for the document. -/
theorem ofReading_duplicatingStarts {n : Nat} (h : UInt32.ofNat (n + 1) = 0) :
    ofReading ⟨duplicatingStarts n, true⟩ = .ok ⟨[], List.replicate n ⟨"a", "b"⟩⟩ := by
  have hcount : (1 : UInt32) + UInt32.ofNat n = 0 := by
    rw [UInt32.add_comm, ← h, UInt32.ofNat_add]
    rfl
  have hroot : Draft.start.step (.opened Sample.root.tag) = .ok ⟨.empty, true, 1, none, none⟩ :=
    step_root Sample.document
  rw [ofReading, duplicatingStarts, List.foldlM_cons, hroot, ok_bind, Draft.foldlM_replicate_duplicating, hcount]
  rfl

/-- Here 2 ^ 32 elements are open and the count is zero: the start of a document gives rules in place of it. -/
theorem ofReading_prefix_wrapped :
    nesting (duplicatingStarts (UInt32.size - 1) ++ duplicatingEnds (UInt32.size - 1)) = some [] ∧
    duplicatingStarts (UInt32.size - 1) <+: duplicatingStarts (UInt32.size - 1) ++ duplicatingEnds (UInt32.size - 1) ∧
    nesting (duplicatingStarts (UInt32.size - 1)) = some (duplicatingNames (UInt32.size - 1)) ∧
    (duplicatingNames (UInt32.size - 1)).length = UInt32.size ∧
    ofReading ⟨duplicatingStarts (UInt32.size - 1), true⟩ =
      .ok ⟨[], List.replicate (UInt32.size - 1) ⟨"a", "b"⟩⟩ := by
  have hall : UInt32.size - 1 + 1 = UInt32.size := rfl
  refine ⟨nesting_duplicating _, List.prefix_append _ _, nesting_duplicatingStarts _, ?_, ?_⟩
  · rw [length_duplicatingNames, hall]
  · exact ofReading_duplicatingStarts rfl

end RuleSet

end DependencyEvidence
