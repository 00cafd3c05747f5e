import DependencyEvidence.Proofs.Hints.OpenElements

/-!
# What counts of a condition

What a rule waits for and what it removes is compared by identity. So it does not matter with which confidence a
document gives such an observation, or in which case it spells it (`EvidenceAlike`): two documents that differ only
there (`AlikeFrom`) give rules that do the same to every dependency.

* `HintRule.Alike.step`, `RuleSet.Alike.apply`: rules with conditions and removals of the same identities do the same.
* `readEvidence_alike`: one tag is read up to the confidence and the case.
* `Draft.Alike.step`, `Draft.Alike.foldlM`: drafts stay alike, event by event. That an element stands in `given` or
  `remove` is told from the elements that are open, which a draft fits (`Draft.Fits.part_of_open`).
* `RuleSet.apply_of_alike`: so what is done to a dependency is the same, entry for entry.
-/

namespace DependencyEvidence

open Xml (Attributes Event Tag)

/-! ## Rules -/

namespace Collection

variable {e f : Evidence} {items items' : List Evidence}

theorem same_congr (h : e.identity = f.identity) (x : Evidence) : x.same e = x.same f := by
  rw [Bool.eq_iff_iff, Evidence.same_iff, Evidence.same_iff, h]

theorem contains_congr (h : e.identity = f.identity) (c : Collection) : c.contains e = c.contains f := by
  simp only [contains, same_congr h]

theorem remove_congr (h : e.identity = f.identity) (c : Collection) : c.remove e = c.remove f := by
  simp only [remove, same_congr h]

/-- What depends on identities alone is the same of lists with the same identities. -/
theorem map_congr_identity {β : Type} {f : Evidence → β} (hf : ∀ e e', e.identity = e'.identity → f e = f e')
    (h : items.map Evidence.identity = items'.map Evidence.identity) : items.map f = items'.map f := by
  have hall : List.Forall₂ (fun e e' => e.identity = e'.identity) items items' := by
    rwa [← List.forall₂_eq_eq_eq, List.forall₂_map_left_iff, List.forall₂_map_right_iff] at h
  rw [← List.forall₂_eq_eq_eq, List.forall₂_map_left_iff, List.forall₂_map_right_iff]
  exact hall.imp hf

theorem any_contains_congr (h : items.map Evidence.identity = items'.map Evidence.identity) (c : Collection) :
    items.any c.contains = items'.any c.contains := by
  have hmap := map_congr_identity (fun _ _ he => contains_congr he c) h
  rw [← Function.id_comp c.contains, ← List.any_map, ← List.any_map, hmap]

theorem foldl_remove_congr (h : items.map Evidence.identity = items'.map Evidence.identity) (c : Collection) :
    items.foldl (fun c e => (c.remove e).2) c = items'.foldl (fun c e => (c.remove e).2) c := by
  have hmap : items.map (fun e c => (remove c e).2) = items'.map fun e c => (remove c e).2 :=
    map_congr_identity (fun _ _ he => funext fun c => by rw [remove_congr he]) h
  have hfold : ∀ items : List Evidence, items.foldl (fun c e => (c.remove e).2) c =
      (items.map fun e c => (remove c e).2).foldl (fun c change => change c) c :=
    fun items => by rw [List.foldl_map]
  rw [hfold, hfold, hmap]

end Collection

/-- Whether sets hold the same identities in the same order, on each axis. -/
def EvidenceSets.Alike (s s' : EvidenceSets) : Prop :=
  ∀ a, (s.get a).map Evidence.identity = (s'.get a).map Evidence.identity

theorem EvidenceSets.Alike.push {s s' : EvidenceSets} (h : s.Alike s') {e f : Evidence} (he : e.identity = f.identity)
    (a : Axis) : (s.push a e).Alike (s'.push a f) := by
  intro b
  have hb := h b
  cases a <;> cases b <;> simp_all [EvidenceSets.push, EvidenceSets.get]

namespace HintRule

/-- Whether rules differ only in what does not count: the spelling and the confidence of what they wait for and of what
they remove. -/
structure Alike (r r' : HintRule) : Prop where
  given : r.given.Alike r'.given
  patterns : r.patterns = r'.patterns
  add : r.add = r'.add
  remove : r.remove.Alike r'.remove

namespace Alike

variable {r r' : HintRule}

theorem refl (r : HintRule) : r.Alike r := ⟨fun _ => rfl, rfl, rfl, fun _ => rfl⟩

theorem fires (h : r.Alike r') (d : Dependency) : r.fires d = r'.fires d := by
  have hgiven : ∀ a, (r.given.get a).any (d.evidence a).contains = (r'.given.get a).any (d.evidence a).contains :=
    fun a => Collection.any_contains_congr (h.given a) (d.evidence a)
  simp only [HintRule.fires, hgiven, h.patterns]

theorem change (h : r.Alike r') (a : Axis) (c : Collection) : r.change a c = r'.change a c := by
  rw [HintRule.change, HintRule.change, h.add]
  exact Collection.foldl_remove_congr (h.remove a) _

theorem step (h : r.Alike r') (d : Dependency) : HintRule.step d r = HintRule.step d r' := by
  simp only [HintRule.step, HintRule.applyTo, h.fires, h.change]

theorem push (h : r.Alike r') {e f : Evidence} (he : e.identity = f.identity) {part : Part}
    (hadd : part = .add → e = f) (a : Axis) : (r.push part a e).Alike (r'.push part a f) := by
  cases part with
  | given => exact ⟨h.given.push he a, h.patterns, h.add, h.remove⟩
  | add =>
    obtain rfl := hadd rfl
    exact ⟨h.given, h.patterns, congrArg (EvidenceSets.push · a e) h.add, h.remove⟩
  | remove => exact ⟨h.given, h.patterns, h.add, h.remove.push he a⟩

end Alike

end HintRule

/-- Whether rule sets differ only in what does not count. -/
structure RuleSet.Alike (s s' : RuleSet) : Prop where
  rules : List.Forall₂ HintRule.Alike s.rules s'.rules
  duplications : s.duplications = s'.duplications

/-- What does not count of rules makes no difference to what they do. -/
theorem RuleSet.Alike.apply {s s' : RuleSet} (h : s.Alike s') (d : Dependency) : s.apply d = s'.apply d := by
  have hrules : ∀ {rules rules' : List HintRule}, List.Forall₂ HintRule.Alike rules rules' →
      ∀ d, rules.foldl HintRule.step d = rules'.foldl HintRule.step d := by
    intro rules rules' hall
    induction hall with
    | nil => exact fun _ => rfl
    | cons hr _ ih =>
      intro d
      rw [List.foldl_cons, List.foldl_cons, hr.step, ih]
  rw [RuleSet.apply, RuleSet.apply, hrules h.rules d, h.duplications]

/-! ## Tags -/

/-- Whether attributes of an observation differ only in what does not count: the confidence, and the case of what makes
the identity. -/
structure AttributesAlike (a a' : Attributes) : Prop where
  other : ∀ key, key ∉ ["confidence", "source", "name", "value"] → a.get? key = a'.get? key
  spelled : ∀ key ∈ ["source", "name", "value"],
    Option.Rel (fun x y => equalIgnoringCase x y = true) (a.get? key) (a'.get? key)

/-- Whether two tags are observations that differ only in what does not count. -/
def EvidenceAlike (t t' : Tag) : Prop :=
  Xml.localName t.name = "evidence" ∧ t'.name = t.name ∧
    ∃ a a', t.attributes? = some a ∧ t'.attributes? = some a' ∧ AttributesAlike a a'

theorem required_eq_ok_iff {a : Attributes} {key element value : String} :
    required a key element = .ok value ↔ a.get? key = some value := by
  rw [required]
  cases a.get? key <;> simp

theorem wordOf_eq_ok_iff {α : Type} {word : Except WordError α} {x : α} : wordOf word = .ok x ↔ word = .ok x := by
  cases word <;> simp [wordOf, Except.mapError]

/-- What is read of an observation stands in its attributes. -/
theorem readEvidence_eq_ok {a : Attributes} {part : Part} {axis : Axis} {e : Evidence}
    (h : readEvidence a part = .ok (axis, e)) :
    (∃ word, a.get? "type" = some word ∧ Axis.ofText word = .ok axis) ∧ a.get? "source" = some e.source ∧
      a.get? "name" = some e.name ∧ a.get? "value" = some e.value := by
  simp only [readEvidence, bind_eq_ok] at h
  obtain ⟨word, hword, axis', haxis, h⟩ := h
  -- whatever the confidence is, the other attributes are read next
  obtain ⟨confidence, h⟩ : ∃ confidence, (do
      let source ← required a "source" "evidence"
      let name ← required a "name" "evidence"
      let value ← required a "value" "evidence"
      return (axis', ({ source, name, value, confidence } : Evidence))) = Except.ok (axis, e) := by
    split at h
    · obtain ⟨confidence, -, h⟩ := bind_eq_ok.1 h
      exact ⟨confidence, h⟩
    · split at h
      · cases h
      · exact ⟨.medium, h⟩
  obtain ⟨source, hsource, name, hname, value, hvalue, h⟩ := by simpa only [bind_eq_ok] using h
  cases h
  exact ⟨⟨word, required_eq_ok_iff.1 hword, wordOf_eq_ok_iff.1 haxis⟩, required_eq_ok_iff.1 hsource,
    required_eq_ok_iff.1 hname, required_eq_ok_iff.1 hvalue⟩

/-- Observations that differ only in what does not count are read as the same, but for confidence and spelling. -/
theorem readEvidence_alike {a a' : Attributes} (h : AttributesAlike a a') {part : Part} {axis axis' : Axis}
    {e f : Evidence} (he : readEvidence a part = .ok (axis, e)) (hf : readEvidence a' part = .ok (axis', f)) :
    axis = axis' ∧ e.identity = f.identity := by
  obtain ⟨⟨word, htype, haxis⟩, hsource, hname, hvalue⟩ := readEvidence_eq_ok he
  obtain ⟨⟨word', htype', haxis'⟩, hsource', hname', hvalue'⟩ := readEvidence_eq_ok hf
  have hword : word = word' := by
    rw [h.other "type" (by decide), htype'] at htype
    exact (Option.some.inj htype).symm
  have hspelled : ∀ key ∈ ["source", "name", "value"], ∀ x y, a.get? key = some x → a'.get? key = some y →
      folded x = folded y := by
    intro key hkey x y hx hy
    have hrel := h.spelled key hkey
    rw [hx, hy, Option.rel_some_some] at hrel
    exact eq_of_beq hrel
  constructor
  · subst hword
    exact Except.ok.inj (haxis.symm.trans haxis')
  · rw [Evidence.identity, Evidence.identity, hspelled "source" (by simp) _ _ hsource hsource',
      hspelled "name" (by simp) _ _ hname hname', hspelled "value" (by simp) _ _ hvalue hvalue']

theorem EvidenceAlike.read {t t' : Tag} (h : EvidenceAlike t t') {a a' : Attributes} {part : Part} {axis axis' : Axis}
    {e f : Evidence} (ha : attributesOf t = .ok a) (ha' : attributesOf t' = .ok a')
    (he : readEvidence a part = .ok (axis, e)) (hf : readEvidence a' part = .ok (axis', f)) :
    axis = axis' ∧ e.identity = f.identity := by
  obtain ⟨-, -, b, b', hb, hb', halike⟩ := h
  rw [attributesOf, hb] at ha
  rw [attributesOf, hb'] at ha'
  cases ha
  cases ha'
  exact readEvidence_alike halike he hf

/-! ## Documents -/

/-- Whether an element stands in `given` or `remove`, told from the open elements. -/
def IsCondition (names : List (List Char)) : Prop :=
  ∃ name ∈ names, Xml.localName name = "given" ∨ Xml.localName name = "remove"

/-- Whether two events are start tags, or empty tags, of observations that differ only in what does not count. -/
inductive EventAlike : Event → Event → Prop
  | opened {t t' : Tag} (h : EvidenceAlike t t') : EventAlike (.opened t) (.opened t')
  | empty {t t' : Tag} (h : EvidenceAlike t t') : EventAlike (.empty t) (.empty t')

/-- Whether two lists of events, behind some open elements, differ only in what does not count of observations in
`given` and `remove`. -/
inductive AlikeFrom : List (List Char) → List Event → List Event → Prop
  | nil (names : List (List Char)) : AlikeFrom names [] []
  | cons {names names' : List (List Char)} {e e' : Event} {rest rest' : List Event}
      (event : e = e' ∨ IsCondition names ∧ EventAlike e e') (nest : e.nest names = some names')
      (after : AlikeFrom names' rest rest') : AlikeFrom names (e :: rest) (e' :: rest')

theorem Part.name_injective : Function.Injective Part.name := by
  intro p q h
  cases p <;> cases q <;> first | rfl | exact absurd h (by decide)

namespace Draft

/-- A draft is in the part whose element is open. -/
theorem Fits.part_of_open {d : Draft} {names : List (List Char)} (hd : d.Fits names) {p : Part}
    (h : p.name ∈ names.map Xml.localName) : d.part = some p := by
  have hopen : p.name ∈ openNames names := List.mem_filter.2 ⟨h, by simpa using p.name_notMem_leafNames⟩
  have hheld : p.name ∈ d.heldNames := by
    have hroot : p.name ∉ ["hints"] := by cases p <;> decide
    rcases hd.held with h | h <;> rw [h] at hopen
    · exact hopen
    · exact (List.mem_append.1 hopen).resolve_right hroot
  have hhint : p.name ∉ ["hint"] := by cases p <;> decide
  rw [heldNames] at hheld
  split at hheld
  · cases hheld
  · exact absurd hheld hhint
  · next q hcurrent hpart =>
    rw [hpart, Part.name_injective ((List.mem_cons.1 hheld).resolve_right hhint)]

theorem Fits.part_of_isCondition {d : Draft} {names : List (List Char)} (hd : d.Fits names) (h : IsCondition names) :
    d.part ≠ some .add := by
  obtain ⟨name, hname, hgiven | hremove⟩ := h
  · rw [hd.part_of_open (p := .given) (List.mem_map.2 ⟨name, hname, hgiven⟩)]
    decide
  · rw [hd.part_of_open (p := .remove) (List.mem_map.2 ⟨name, hname, hremove⟩)]
    decide

/-- Whether drafts differ only in what does not count. -/
structure Alike (d d' : Draft) : Prop where
  rules : d.rules.Alike d'.rules
  rootSeen : d.rootSeen = d'.rootSeen
  depth : d.depth = d'.depth
  current : Option.Rel HintRule.Alike d.current d'.current
  part : d.part = d'.part

namespace Alike

variable {d d' d₁ d₁' : Draft} {t t' : Tag} {e e' : Event}

theorem current_none (h : d.Alike d') (hd : d.current = none) : d'.current = none := by
  have hrel := h.current
  rw [hd] at hrel
  cases hd' : d'.current with
  | none => rfl
  | some rule => simp [hd'] at hrel

theorem current_some (h : d.Alike d') {rule : HintRule} (hd : d.current = some rule) :
    ∃ rule', d'.current = some rule' ∧ rule.Alike rule' := by
  have hrel := h.current
  rw [hd] at hrel
  cases hd' : d'.current with
  | none => simp [hd'] at hrel
  | some rule' => exact ⟨rule', rfl, by simpa [hd'] using hrel⟩

/-- Tags that differ are observations. -/
theorem tag_eq {P : Prop} (ht : t = t' ∨ P ∧ EvidenceAlike t t') {name : String} (named : Xml.localName t.name = name)
    (hname : name ≠ "evidence") : t = t' :=
  ht.resolve_right fun h => hname (named.symm.trans h.2.1)

/-- Elements that differ only in what does not count are taken alike. -/
theorem enter (h : d.Alike d') (ht : t = t' ∨ d.part ≠ some .add ∧ EvidenceAlike t t') (h₁ : d.enter t = .ok d₁)
    (h₁' : d'.enter t' = .ok d₁') : d₁.Alike d₁' := by
  cases entered_of_enter h₁ with
  | hint named outside between =>
    obtain rfl := tag_eq ht named (by decide)
    have houtside := h.current_none outside
    have hbetween := h.part.symm.trans between
    have henter : d'.enter t = .ok { d' with current := some .empty } := by
      simp only [Draft.enter, named, houtside, hbetween]
    cases henter.symm.trans h₁'
    exact ⟨h.rules, h.rootSeen, h.depth, .some (.refl _), h.part⟩
  | @part p rule named inside between =>
    obtain rfl := tag_eq ht named (by cases p <;> decide)
    obtain ⟨rule', inside', hrule⟩ := h.current_some inside
    have hbetween := h.part.symm.trans between
    have henter : d'.enter t = .ok { d' with part := some p } := by
      cases p <;> simp only [Draft.enter, named, Part.name, inside', hbetween]
    cases henter.symm.trans h₁'
    exact ⟨h.rules, h.rootSeen, h.depth, h.current, rfl⟩
  | @evidence p rule a axis x named inside within attributes read =>
    obtain ⟨rule', inside', hrule⟩ := h.current_some inside
    have hwithin := h.part.symm.trans within
    have hnamed : Xml.localName t'.name = "evidence" := by
      rcases ht with rfl | ⟨-, -, hname, -⟩
      · exact named
      · rw [hname, named]
    simp only [Draft.enter, hnamed, inside', hwithin, bind_eq_ok] at h₁'
    obtain ⟨a', attributes', ⟨axis', y⟩, read', h₁'⟩ := h₁'
    cases h₁'
    obtain ⟨rfl, hidentity, hadd⟩ : axis = axis' ∧ x.identity = y.identity ∧ (p = .add → x = y) := by
      rcases ht with rfl | ⟨hpart, halike⟩
      · cases attributes.symm.trans attributes'
        cases read.symm.trans read'
        exact ⟨rfl, rfl, fun _ => rfl⟩
      · obtain ⟨haxis, hidentity⟩ := halike.read attributes attributes' read read'
        exact ⟨haxis, hidentity, fun hp => absurd (hp ▸ within) hpart⟩
    exact ⟨h.rules, h.rootSeen, h.depth, .some (hrule.push hidentity hadd axis), within⟩
  | @fileName rule a p named inside within attributes read =>
    obtain rfl := tag_eq ht named (by decide)
    obtain ⟨rule', inside', hrule⟩ := h.current_some inside
    have hwithin := h.part.symm.trans within
    have henter : d'.enter t = .ok { d' with current := some { rule' with patterns := rule'.patterns ++ [p] } } := by
      simp only [Draft.enter, named, inside', hwithin, attributes, read, ok_bind]
    cases henter.symm.trans h₁'
    exact ⟨h.rules, h.rootSeen, h.depth,
      .some ⟨hrule.given, congrArg (· ++ [p]) hrule.patterns, hrule.add, hrule.remove⟩, h.part⟩
  | @duplication a r named outside between attributes read =>
    obtain rfl := tag_eq ht named (by decide)
    have houtside := h.current_none outside
    have hbetween := h.part.symm.trans between
    have henter : d'.enter t =
        .ok { d' with rules := { d'.rules with duplications := d'.rules.duplications ++ [r] } } := by
      simp only [Draft.enter, named, houtside, hbetween, attributes, read, ok_bind]
    cases henter.symm.trans h₁'
    exact ⟨⟨h.rules.rules, congrArg (· ++ [r]) h.rules.duplications⟩, h.rootSeen, h.depth, h.current, h.part⟩

theorem finishElement (h : d.Alike d') (name : String) : (d.finishElement name).Alike (d'.finishElement name) := by
  unfold Draft.finishElement
  split
  · exact ⟨h.rules, h.rootSeen, h.depth, h.current, rfl⟩
  · split
    · cases hd : d.current with
      | none =>
        rw [h.current_none hd]
        exact h
      | some rule =>
        obtain ⟨rule', hrule', hrule⟩ := h.current_some hd
        rw [hrule']
        exact ⟨⟨List.rel_append h.rules.rules (.cons hrule .nil), h.rules.duplications⟩, h.rootSeen, h.depth, .none,
          h.part⟩
    · exact h

/-- Start tags and empty tags that differ only in what does not count are taken alike. -/
theorem open? (h : d.Alike d') (ht : t = t' ∨ d.part ≠ some .add ∧ EvidenceAlike t t') {isEmpty : Bool}
    (h₁ : d.open? t isEmpty = .ok d₁) (h₁' : d'.open? t' isEmpty = .ok d₁') : d₁.Alike d₁' := by
  have hname : t'.name = t.name := by
    rcases ht with rfl | ⟨-, -, hname, -⟩
    · rfl
    · exact hname
  simp only [Draft.open?, ← h.rootSeen, hname] at h₁ h₁'
  split at h₁
  · next hseen =>
    rw [if_pos hseen] at h₁'
    obtain ⟨d₂, henter, h₁⟩ := bind_eq_ok.1 h₁
    obtain ⟨d₂', henter', h₁'⟩ := bind_eq_ok.1 h₁'
    have halike := h.enter ht henter henter'
    cases h₁
    cases h₁'
    cases isEmpty with
    | true => exact halike.finishElement _
    | false => exact ⟨halike.rules, halike.rootSeen, congrArg (· + 1) halike.depth, halike.current, halike.part⟩
  · next hseen =>
    rw [if_neg hseen] at h₁'
    split at h₁
    · next hroot =>
      rw [if_pos hroot] at h₁'
      simp only [bind_eq_ok] at h₁ h₁'
      obtain ⟨_, -, _, -, h₁⟩ := h₁
      obtain ⟨_, -, _, -, h₁'⟩ := h₁'
      cases h₁
      cases h₁'
      exact ⟨h.rules, rfl, by rw [h.depth], h.current, h.part⟩
    · cases h₁

/-- Drafts stay alike. -/
theorem step (h : d.Alike d') (he : e = e' ∨ d.part ≠ some .add ∧ EventAlike e e') (h₁ : d.step e = .ok d₁)
    (h₁' : d'.step e' = .ok d₁') : d₁.Alike d₁' := by
  rcases he with rfl | ⟨hpart, halike⟩
  · cases e with
    | opened t => exact h.open? (.inl rfl) h₁ h₁'
    | empty t => exact h.open? (.inl rfl) h₁ h₁'
    | closed name =>
      cases h₁
      cases h₁'
      have hfinish := h.finishElement (Xml.localName name)
      exact ⟨hfinish.rules, hfinish.rootSeen, congrArg shallower hfinish.depth, hfinish.current, hfinish.part⟩
  · cases halike with
    | opened ht => exact h.open? (.inr ⟨hpart, ht⟩) h₁ h₁'
    | empty ht => exact h.open? (.inr ⟨hpart, ht⟩) h₁ h₁'

theorem foldlM {names : List (List Char)} {events events' : List Event} (h : d.Alike d') (hd : d.Fits names)
    (halike : AlikeFrom names events events') (h₁ : events.foldlM Draft.step d = .ok d₁)
    (h₁' : events'.foldlM Draft.step d' = .ok d₁') : d₁.Alike d₁' := by
  induction halike generalizing d d' with
  | nil =>
    cases h₁
    cases h₁'
    exact h
  | cons event nest after ih =>
    obtain ⟨d₂, hstep, h₁⟩ := bind_eq_ok.1 h₁
    obtain ⟨d₂', hstep', h₁'⟩ := bind_eq_ok.1 h₁'
    -- an observation that differs stands in no `add`
    have hevent := event.imp_right fun he => And.imp_left hd.part_of_isCondition he
    exact ih (h.step hevent hstep hstep') (step_fits hd nest hstep) h₁ h₁'

end Alike

end Draft

/-- What a document gives is what a draft has when all events are taken. -/
theorem exists_draft_of_ofText {text : String} {rules : RuleSet} (h : RuleSet.ofText text = .ok rules) :
    ∃ d, (Xml.read text.toList).events.foldlM Draft.step .start = .ok d ∧ d.rules = rules := by
  simp only [RuleSet.ofText, RuleSet.ofReading] at h
  obtain ⟨d, hfold, h⟩ := bind_eq_ok.1 h
  refine ⟨d, hfold, ?_⟩
  split at h
  · simp only [Draft.finish] at h
    split at h
    · cases h
    · split at h
      · cases h
      · exact Except.ok.inj h
  · cases h

/-- **Confidence and spelling of conditions and removals do not matter.** Two documents that are read, and differ only
in the confidence and in the case of source, name and value of observations in `given` and `remove`, do the same to
every dependency, entry for entry. -/
theorem RuleSet.apply_of_alike {text text' : String} {rules rules' : RuleSet}
    (halike : AlikeFrom [] (Xml.read text.toList).events (Xml.read text'.toList).events)
    (h : RuleSet.ofText text = .ok rules) (h' : RuleSet.ofText text' = .ok rules') (d : Dependency) :
    rules.apply d = rules'.apply d := by
  obtain ⟨d₁, hfold, rfl⟩ := exists_draft_of_ofText h
  obtain ⟨d₁', hfold', rfl⟩ := exists_draft_of_ofText h'
  have hstart : Draft.start.Alike .start := ⟨⟨.nil, rfl⟩, rfl, rfl, .none, rfl⟩
  exact (hstart.foldlM Draft.fits_start halike hfold hfold').rules.apply d

/-- A document with a rule that waits for one observation, whose attributes are given. -/
def waitingFor (attributes : String) : String :=
  "<hints><hint><given><evidence" ++ attributes ++ "/></given></hint></hints>"

/-- The tags of such a document. -/
def waitingTags (attributes : String) : List Event :=
  [.opened ⟨"hints".toList, []⟩, .opened ⟨"hint".toList, []⟩, .opened ⟨"given".toList, []⟩,
    .empty ⟨"evidence".toList, attributes.toList⟩,
    .closed "given".toList, .closed "hint".toList, .closed "hints".toList]

/-- An observation without a confidence. -/
def quietly : String := " type='vendor' source='pom' name='group' value='acme'"

/-- The same observation in another case, and with a confidence. -/
def loudly : String := " type='vendor' source='POM' name='group' value='Acme' confidence='HIGH'"

theorem alikeFrom_loudly : AlikeFrom [] (waitingTags quietly) (waitingTags loudly) := by
  have hquietly : (⟨"evidence".toList, quietly.toList⟩ : Tag).attributes? =
      some [("type", "vendor"), ("source", "pom"), ("name", "group"), ("value", "acme")] := by decide +kernel
  have hloudly : (⟨"evidence".toList, loudly.toList⟩ : Tag).attributes? =
      some [("type", "vendor"), ("source", "POM"), ("name", "group"), ("value", "Acme"), ("confidence", "HIGH")] := by
    decide +kernel
  have hattributes : AttributesAlike
      [("type", "vendor"), ("source", "pom"), ("name", "group"), ("value", "acme")]
      [("type", "vendor"), ("source", "POM"), ("name", "group"), ("value", "Acme"), ("confidence", "HIGH")] := by
    constructor
    · intro key hkey
      simp only [List.mem_cons, List.not_mem_nil, or_false, not_or, ← beq_eq_false_iff_ne] at hkey
      simp [Attributes.get?, List.lookup_cons, hkey]
    · simp only [List.forall_mem_cons]
      refine ⟨?_, ?_, ?_, by simp⟩ <;> exact .some (by decide +kernel)
  have hevidence : EvidenceAlike ⟨"evidence".toList, quietly.toList⟩ ⟨"evidence".toList, loudly.toList⟩ :=
    ⟨by decide, rfl, _, _, hquietly, hloudly, hattributes⟩
  exact .cons (.inl rfl) rfl (.cons (.inl rfl) rfl (.cons (.inl rfl) rfl
    (.cons (.inr ⟨⟨"given".toList, by decide, by decide⟩, .empty hevidence⟩) rfl
      (.cons (.inl rfl) rfl (.cons (.inl rfl) rfl (.cons (.inl rfl) rfl (.nil [])))))))

theorem RuleSet.apply_of_alike_loudly :
    ∃ rules rules', ofText (waitingFor quietly) = .ok rules ∧ ofText (waitingFor loudly) = .ok rules' ∧
      ∀ d, rules.apply d = rules'.apply d := by
  have hquietly : Xml.read (waitingFor quietly).toList = ⟨waitingTags quietly, true⟩ := by decide +kernel
  have hloudly : Xml.read (waitingFor loudly).toList = ⟨waitingTags loudly, true⟩ := by decide +kernel
  have hok : (ofReading ⟨waitingTags quietly, true⟩).isOk = true := by decide +kernel
  have hok' : (ofReading ⟨waitingTags loudly, true⟩).isOk = true := by decide +kernel
  rw [← hquietly] at hok
  rw [← hloudly] at hok'
  obtain ⟨rules, h⟩ := exists_eq_ok_of_isOk hok
  obtain ⟨rules', h'⟩ := exists_eq_ok_of_isOk hok'
  have halike : AlikeFrom [] (Xml.read (waitingFor quietly).toList).events
      (Xml.read (waitingFor loudly).toList).events := by
    rw [hquietly, hloudly]
    exact alikeFrom_loudly
  exact ⟨rules, rules', h, h', apply_of_alike halike h h'⟩

end DependencyEvidence
