import DependencyEvidence.Proofs.Hints.Nesting
import DependencyEvidence.Proofs.Xml.Markup

/-!
# The documents of rules and what they spell

A document in the format (`RulesText`) is a root with hints and duplications in any order, a hint has parts in any order
and number, and a part has observations and patterns. Every tag has the attributes that its element needs
(`SpellsEvidence`, `SpellsPattern`, `SpellsDuplication`). What the document spells (`RulesText.rules`) is told from
these alone: a hint gives, for each part and axis, the observations of all its parts of that kind in order.

* `conforms_elements`: all elements of such a document are in their places.
* `readEvidence_of_spells`, `readPattern_of_spells`, `readDuplication_of_spells`: one tag is read as it is written.
* `Draft.foldlM_leaves`, `Draft.foldlM_parts`, `Draft.foldlM_items`: a draft takes the elements level by level.
* `takeParts_empty`: taking the parts of a hint one after another gives what the hint spells.
* `ofText_rules`: however a document is written, it is read, and gives what it spells.
-/

namespace DependencyEvidence

open Xml (AttributeText Attributes Elements Event Markup Piece TagText)

/-! ## What attributes spell -/

/-- Whether a text, without the blanks around it, has the letters of a word in any case. -/
def IsWord (word text : String) : Prop :=
  List.Forall₂ (fun w c => c = w.toLower ∨ c = w.toUpper) word.toList (Unicode.trim text.toList)

/-- Whether attributes tell a flag. A flag that is absent is not set. -/
def SpellsFlag (a : Attributes) (key : String) (flag : Bool) : Prop :=
  (∃ text, (key, text) ∈ a ∧ IsWord (toString flag) text) ∨ key ∉ a.map Prod.fst ∧ flag = false

/-- Whether attributes tell an observation and its axis. Outside `add` the confidence may be absent, and is medium. -/
structure SpellsEvidence (a : Attributes) (part : Part) (axis : Axis) (e : Evidence) : Prop where
  axis : ∃ text, ("type", text) ∈ a ∧ IsWord axis.name text
  source : ("source", e.source) ∈ a
  name : ("name", e.name) ∈ a
  value : ("value", e.value) ∈ a
  confidence : (∃ text, ("confidence", text) ∈ a ∧ IsWord e.confidence.name text) ∨
    "confidence" ∉ a.map Prod.fst ∧ part ≠ .add ∧ e.confidence = .medium

/-- Whether attributes tell a pattern. -/
def SpellsPattern (a : Attributes) (p : FilenamePattern) : Prop :=
  ∃ value caseSensitive, ("contains", value) ∈ a ∧ SpellsFlag a "caseSensitive" caseSensitive ∧
    (SpellsFlag a "regex" false ∧ p = .literal value caseSensitive ∨
      SpellsFlag a "regex" true ∧ FilenamePattern.regex? value caseSensitive = some p)

/-- Whether attributes tell a duplication. -/
def SpellsDuplication (a : Attributes) (d : Duplication) : Prop :=
  ("value", d.value) ∈ a ∧ ("duplicate", d.duplicate) ∈ a

/-! ## Documents in the format -/

/-- The name of a part. -/
def Part.name : Part → String
  | given => "given"
  | add => "add"
  | remove => "remove"

/-- An observation or a pattern in a part. Patterns stand in `given` only. -/
inductive LeafText (part : Part) where
  | evidence (tag : TagText) (named : tag.localName = "evidence") (axis : Axis) (e : Evidence)
      (spelled : SpellsEvidence tag.pairs part axis e)
  | fileName (tag : TagText) (named : tag.localName = "fileName") (given : part = .given) (p : FilenamePattern)
      (spelled : SpellsPattern tag.pairs p)

/-- A part of a hint. -/
structure PartText where
  tag : TagText
  part : Part
  named : tag.localName = part.name
  leaves : List (LeafText part)

/-- A hint, or a duplication. -/
inductive ItemText where
  | hint (tag : TagText) (named : tag.localName = "hint") (parts : List PartText)
  | duplication (tag : TagText) (named : tag.localName = "vendorDuplicatingHint") (d : Duplication)
      (spelled : SpellsDuplication tag.pairs d)

/-- A document of rules. -/
structure RulesText where
  tag : TagText
  named : tag.localName = "hints"
  version : ∀ text, ("version", text) ∈ tag.pairs → Unicode.trimmed text = "1"
  items : List ItemText

section Elements

variable {part : Part}

/-- The tag of a leaf. -/
def LeafText.tag : LeafText part → TagText
  | evidence tag _ _ _ _ => tag
  | fileName tag _ _ _ _ => tag

/-- The elements of leaves, with nothing inside. -/
def leafElements : List (LeafText part) → Elements TagText
  | [] => .nil
  | leaf :: after => .cons leaf.tag .nil (leafElements after)

/-- The elements of parts. -/
def partElements : List PartText → Elements TagText
  | [] => .nil
  | p :: after => .cons p.tag (leafElements p.leaves) (partElements after)

/-- The elements of hints and duplications. -/
def itemElements : List ItemText → Elements TagText
  | [] => .nil
  | .hint tag _ parts :: after => .cons tag (partElements parts) (itemElements after)
  | .duplication tag _ _ _ :: after => .cons tag .nil (itemElements after)

/-- The elements of a document. -/
def RulesText.elements (r : RulesText) : Elements TagText := .cons r.tag (itemElements r.items) .nil

end Elements

theorem wellPlaced_leaves {part : Part} (leaves : List (LeafText part)) :
    WellPlaced part.name ((leafElements leaves).map TagText.tag) := by
  induction leaves with
  | nil => trivial
  | cons leaf after ih =>
    refine ⟨?_, trivial, ih⟩
    cases leaf with
    | evidence tag named axis e spelled =>
      cases part <;> simp [LeafText.tag, named, Part.name, childNames]
    | fileName tag named given p spelled =>
      simp [LeafText.tag, named, given, Part.name, childNames]

theorem wellPlaced_parts (parts : List PartText) :
    WellPlaced "hint" ((partElements parts).map TagText.tag) := by
  induction parts with
  | nil => trivial
  | cons p after ih =>
    rw [partElements, Elements.map, WellPlaced, TagText.localName_tag, p.named]
    refine ⟨?_, wellPlaced_leaves p.leaves, ih⟩
    cases p.part <;> simp [Part.name, childNames]

theorem wellPlaced_items (items : List ItemText) :
    WellPlaced "hints" ((itemElements items).map TagText.tag) := by
  induction items with
  | nil => trivial
  | cons item after ih =>
    cases item with
    | hint tag named parts =>
      rw [itemElements, Elements.map, WellPlaced, TagText.localName_tag, named]
      exact ⟨by simp [childNames], wellPlaced_parts parts, ih⟩
    | duplication tag named d spelled =>
      exact ⟨by simp [named, childNames], trivial, ih⟩

/-- A document in the format has its elements in their places. -/
theorem conforms_elements (r : RulesText) : Conforms (r.elements.map TagText.tag) :=
  ⟨r.named, wellPlaced_items r.items⟩

/-! ## What documents spell -/

section Meaning

variable {part : Part}

/-- The observation of a leaf, if it is one on an axis. -/
def LeafText.evidence? (a : Axis) : LeafText part → Option Evidence
  | evidence _ _ axis e _ => if axis = a then some e else none
  | fileName _ _ _ _ _ => none

/-- The pattern of a leaf, if it is one. -/
def LeafText.pattern? : LeafText part → Option FilenamePattern
  | evidence _ _ _ _ _ => none
  | fileName _ _ _ p _ => some p

/-- The observations on an axis in the parts of one kind, in order. -/
def evidenceOf (parts : List PartText) (part : Part) (a : Axis) : List Evidence :=
  (parts.filter (·.part = part)).flatMap fun p => p.leaves.filterMap (·.evidence? a)

/-- The observations in the parts of one kind. -/
def setsOf (parts : List PartText) (part : Part) : EvidenceSets :=
  ⟨evidenceOf parts part .vendor, evidenceOf parts part .product, evidenceOf parts part .version⟩

/-- The patterns in parts, in order. -/
def patternsOf (parts : List PartText) : List FilenamePattern :=
  parts.flatMap fun p => p.leaves.filterMap (·.pattern?)

/-- The rule that the parts of a hint spell. -/
def ruleOf (parts : List PartText) : HintRule :=
  ⟨setsOf parts .given, patternsOf parts, setsOf parts .add, setsOf parts .remove⟩

/-- The rule of a hint. -/
def ItemText.rule? : ItemText → Option HintRule
  | hint _ _ parts => some (ruleOf parts)
  | duplication _ _ _ _ => none

/-- The duplication of an element that is one. -/
def ItemText.duplication? : ItemText → Option Duplication
  | hint _ _ _ => none
  | duplication _ _ d _ => some d

/-- The rules of a document, in order. -/
def RulesText.rules (r : RulesText) : RuleSet :=
  ⟨r.items.filterMap ItemText.rule?, r.items.filterMap ItemText.duplication?⟩

end Meaning

/-! ## Reading one tag -/

/-- A step that gives a value hands it to the next one. -/
@[simp]
theorem ok_bind {ε α β : Type} (a : α) (f : α → Except ε β) : (Except.ok a >>= f) = f a := rfl

@[simp]
theorem pure_eq_ok {ε α : Type} (a : α) : (pure a : Except ε α) = .ok a := rfl

section Attributes

variable {t : TagText} {key : String}

theorem lookup_of_mem {a : Attributes} {value : String} (hdistinct : (a.map Prod.fst).Nodup)
    (h : (key, value) ∈ a) : a.lookup key = some value := by
  induction a with
  | nil => simp at h
  | cons x rest ih =>
    obtain ⟨k, v⟩ := x
    rw [List.map_cons, List.nodup_cons] at hdistinct
    rcases List.mem_cons.1 h with heq | hrest
    · cases heq
      simp
    · have hne : (key == k) = false :=
        beq_eq_false_iff_ne.2 fun he => hdistinct.1 (List.mem_map.2 ⟨(key, value), hrest, he⟩)
      rw [List.lookup_cons, hne]
      exact ih hdistinct.2 hrest

/-- An attribute of a written tag is found. -/
theorem get?_of_mem {value : String} (h : (key, value) ∈ t.pairs) : t.pairs.get? key = some value := by
  have hnames : (t.pairs.map Prod.fst).Nodup := by
    have := t.distinct
    rwa [TagText.pairs, List.map_map]
  have hdistinct : (t.pairs.reverse.map Prod.fst).Nodup := by
    rw [List.map_reverse]
    exact List.nodup_reverse.2 hnames
  exact lookup_of_mem hdistinct (List.mem_reverse.2 h)

theorem get?_eq_none_iff {a : Attributes} : a.get? key = none ↔ key ∉ a.map Prod.fst := by
  have hname : (∀ p ∈ a.reverse, (key != p.1) = true) ↔ key ∉ a.map Prod.fst := by
    simp only [bne_iff_ne, List.mem_reverse, List.mem_map, not_exists, not_and]
    exact forall₂_congr fun _ _ => ne_comm
  exact List.lookup_eq_none_iff.trans hname

theorem get?_of_not_mem {a : Attributes} (h : key ∉ a.map Prod.fst) : a.get? key = none := get?_eq_none_iff.2 h

theorem attributesOf_tag (t : TagText) : attributesOf t.tag = .ok t.pairs := by
  rw [attributesOf, t.attributes?_tag]

theorem required_of_mem {value : String} (h : (key, value) ∈ t.pairs) (element : String) :
    required t.pairs key element = .ok value := by
  rw [required, get?_of_mem h]

/-- A word is found in the case in which it is compared. -/
theorem map_of_isWord {word text : String} (h : IsWord word text) {fold : Char → Char}
    (hfold : word.toList.all (fun w => fold w.toLower == w && fold w.toUpper == w) = true) :
    String.ofList ((Unicode.trim text.toList).map fold) = word := by
  suffices hmap : ∀ {letters found : List Char}, List.Forall₂ (fun w c => c = w.toLower ∨ c = w.toUpper) letters found →
      (∀ w ∈ letters, fold w.toLower = w ∧ fold w.toUpper = w) → found.map fold = letters by
    rw [hmap h (by simpa using hfold), String.ofList_toList]
  intro letters found hletters hfold
  induction hletters with
  | nil => rfl
  | cons hc _ ih =>
    obtain ⟨⟨hlower, hupper⟩, hrest⟩ := List.forall_mem_cons.1 hfold
    rw [List.map_cons, ih hrest]
    rcases hc with rfl | rfl
    · rw [hlower]
    · rw [hupper]

theorem flag_of_spells {set : Bool} (h : SpellsFlag t.pairs key set) : flag t.pairs key = .ok set := by
  rcases h with ⟨text, hmem, hword⟩ | ⟨habsent, rfl⟩
  · have hname : String.ofList ((Unicode.trim text.toList).map Char.toLower) = toString set :=
      map_of_isWord hword (by cases set <;> decide)
    rw [flag, get?_of_mem hmem]
    dsimp only
    rw [hname]
    cases set <;> rfl
  · rw [flag, get?_of_not_mem habsent]

theorem axis_ofText {axis : Axis} {text : String} (h : IsWord axis.name text) : Axis.ofText text = .ok axis := by
  have hname : String.ofList ((Unicode.trim text.toList).map Char.toLower) = axis.name :=
    map_of_isWord h (by cases axis <;> decide)
  rw [Axis.ofText, hname]
  cases axis <;> rfl

theorem confidence_ofText {c : Confidence} {text : String} (h : IsWord c.name text) :
    Confidence.ofText text = .ok c := by
  have hname : String.ofList ((Unicode.trim text.toList).map Char.toUpper) = c.name :=
    map_of_isWord h (by cases c <;> decide)
  rw [Confidence.ofText, hname]
  cases c <;> rfl

theorem wordOf_ok {α : Type} (a : α) : wordOf (.ok a) = .ok a := rfl

theorem readEvidence_of_spells {part : Part} {axis : Axis} {e : Evidence}
    (h : SpellsEvidence t.pairs part axis e) : readEvidence t.pairs part = .ok (axis, e) := by
  obtain ⟨text, htype, haxis⟩ := h.axis
  rcases h.confidence with ⟨word, hmem, hword⟩ | ⟨habsent, hpart, hmedium⟩
  · simp [readEvidence, required_of_mem htype, required_of_mem h.source, required_of_mem h.name,
      required_of_mem h.value, get?_of_mem hmem, wordOf_ok, axis_ofText haxis, confidence_ofText hword]
  · simp [readEvidence, required_of_mem htype, required_of_mem h.source, required_of_mem h.name,
      required_of_mem h.value, get?_of_not_mem habsent, wordOf_ok, axis_ofText haxis, hpart, ← hmedium]

theorem readPattern_of_spells {p : FilenamePattern} (h : SpellsPattern t.pairs p) : readPattern t.pairs = .ok p := by
  obtain ⟨value, caseSensitive, hvalue, hcase, ⟨hregex, rfl⟩ | ⟨hregex, hp⟩⟩ := h
  · simp [readPattern, required_of_mem hvalue, flag_of_spells hcase, flag_of_spells hregex]
  · simp [readPattern, required_of_mem hvalue, flag_of_spells hcase, flag_of_spells hregex, hp]

theorem readDuplication_of_spells {d : Duplication} (h : SpellsDuplication t.pairs d) :
    readDuplication t.pairs = .ok d := by
  rw [readDuplication, required_of_mem h.1, required_of_mem h.2]
  rfl

theorem checkVersion_of_spells (h : ∀ text, ("version", text) ∈ t.pairs → Unicode.trimmed text = "1") :
    checkVersion t.pairs = .ok () := by
  unfold checkVersion
  by_cases hmem : "version" ∈ t.pairs.map Prod.fst
  · obtain ⟨⟨_, text⟩, hmem, rfl⟩ := List.mem_map.1 hmem
    rw [get?_of_mem hmem]
    simp [h text hmem, supportedVersions]
  · rw [get?_of_not_mem hmem]

end Attributes

/-! ## Reading elements -/

/-- The rule with what a leaf says. -/
def LeafText.into {part : Part} (r : HintRule) : LeafText part → HintRule
  | evidence _ _ axis e _ => r.push part axis e
  | fileName _ _ _ p _ => { r with patterns := r.patterns ++ [p] }

/-- The rule with what parts say, taken leaf by leaf. -/
def takeParts (r : HintRule) (parts : List PartText) : HintRule :=
  parts.foldl (fun r p => p.leaves.foldl LeafText.into r) r

/-- The rules with a hint or a duplication. -/
def ItemText.into (s : RuleSet) : ItemText → RuleSet
  | hint _ _ parts => { s with rules := s.rules ++ [takeParts .empty parts] }
  | duplication _ _ d _ => { s with duplications := s.duplications ++ [d] }

namespace Draft

variable {rules : RuleSet} {depth : UInt32} {rule : HintRule} {part : Part}

/-- An element is taken by its start, then by what is inside, and then by its end. The count of open elements has to
have room for it. -/
theorem foldlM_element (hroom : depth.toNat + 1 < UInt32.size) {s s₁ s₂ : RuleSet} {c c₁ c₂ : Option HintRule}
    {p p₁ p₂ : Option Part} {t : TagText} {inside : Elements TagText}
    (henter : enter ⟨s, true, depth, c, p⟩ t.tag = .ok ⟨s₁, true, depth, c₁, p₁⟩)
    (hinside : (inside.map TagText.tag).events.foldlM step ⟨s₁, true, depth + 1, c₁, p₁⟩ =
      .ok ⟨s₂, true, depth + 1, c₂, p₂⟩)
    (after : Elements TagText) :
    ((Elements.cons t inside after).map TagText.tag).events.foldlM step ⟨s, true, depth, c, p⟩ =
      (after.map TagText.tag).events.foldlM step (finishElement ⟨s₂, true, depth, c₂, p₂⟩ t.localName) := by
  have hopen : step ⟨s, true, depth, c, p⟩ (.opened t.tag) = .ok ⟨s₁, true, depth + 1, c₁, p₁⟩ := by
    simp [step, open?, henter]
  have hclose : step ⟨s₂, true, depth + 1, c₂, p₂⟩ (.closed t.tag.name) =
      .ok (finishElement ⟨s₂, true, depth, c₂, p₂⟩ t.localName) := by
    have hclose := close_recounted ⟨s₂, true, depth, c₂, p₂⟩ (depth + 1) t.tag.name
    rw [shallower_add_one hroom, ← finishElement_recounted] at hclose
    exact congrArg Except.ok hclose
  rw [Elements.map, Elements.events, List.foldlM_cons, hopen, ok_bind, List.foldlM_append, hinside, ok_bind,
    List.foldlM_cons, hclose, ok_bind]

theorem enter_leaf (leaf : LeafText part) :
    enter ⟨rules, true, depth, some rule, some part⟩ leaf.tag.tag =
      .ok ⟨rules, true, depth, some (leaf.into rule), some part⟩ := by
  cases leaf with
  | evidence tag named axis e spelled =>
    simp [LeafText.tag, LeafText.into, enter, named, attributesOf_tag, readEvidence_of_spells spelled]
  | fileName tag named given p spelled =>
    cases part with
    | given => simp [LeafText.tag, LeafText.into, enter, named, attributesOf_tag, readPattern_of_spells spelled]
    | add => cases given
    | remove => cases given

theorem foldlM_leaves (hroom : depth.toNat + 1 < UInt32.size) (leaves : List (LeafText part)) :
    ((leafElements leaves).map TagText.tag).events.foldlM step ⟨rules, true, depth, some rule, some part⟩ =
      .ok ⟨rules, true, depth, some (leaves.foldl LeafText.into rule), some part⟩ := by
  induction leaves generalizing rule with
  | nil => rfl
  | cons leaf after ih =>
    have hfinish : finishElement ⟨rules, true, depth, some (leaf.into rule), some part⟩ leaf.tag.localName =
        ⟨rules, true, depth, some (leaf.into rule), some part⟩ := by
      cases leaf <;> simp [finishElement, LeafText.tag, *]
    rw [leafElements, foldlM_element hroom (enter_leaf leaf) rfl, hfinish, ih]
    rfl

theorem foldlM_parts (hroom : depth.toNat + 2 < UInt32.size) (parts : List PartText) :
    ((partElements parts).map TagText.tag).events.foldlM step ⟨rules, true, depth, some rule, none⟩ =
      .ok ⟨rules, true, depth, some (takeParts rule parts), none⟩ := by
  induction parts generalizing rule with
  | nil => rfl
  | cons p after ih =>
    obtain ⟨tag, part, named, leaves⟩ := p
    have hdeeper : (depth + 1).toNat = depth.toNat + 1 := toNat_add_one (by omega)
    have henter : enter ⟨rules, true, depth, some rule, none⟩ tag.tag =
        .ok ⟨rules, true, depth, some rule, some part⟩ := by
      cases part <;> simp [enter, named, Part.name]
    have hfinish : ∀ rule, finishElement ⟨rules, true, depth, some rule, some part⟩ tag.localName =
        ⟨rules, true, depth, some rule, none⟩ := by
      rw [named]
      cases part <;> simp [finishElement, Part.name]
    rw [partElements, foldlM_element (by omega) henter (foldlM_leaves (by omega) leaves), hfinish, ih]
    rfl

theorem enter_duplication {t : TagText} (named : t.localName = "vendorDuplicatingHint") {d : Duplication}
    (spelled : SpellsDuplication t.pairs d) :
    enter ⟨rules, true, depth, none, none⟩ t.tag =
      .ok ⟨{ rules with duplications := rules.duplications ++ [d] }, true, depth, none, none⟩ := by
  simp [enter, named, attributesOf_tag, readDuplication_of_spells spelled]

theorem foldlM_items (hroom : depth.toNat + 3 < UInt32.size) (items : List ItemText) :
    ((itemElements items).map TagText.tag).events.foldlM step ⟨rules, true, depth, none, none⟩ =
      .ok ⟨items.foldl ItemText.into rules, true, depth, none, none⟩ := by
  induction items generalizing rules with
  | nil => rfl
  | cons item after ih =>
    have hdeeper : (depth + 1).toNat = depth.toNat + 1 := toNat_add_one (by omega)
    cases item with
    | hint tag named parts =>
      have henter : enter ⟨rules, true, depth, none, none⟩ tag.tag =
          .ok ⟨rules, true, depth, some .empty, none⟩ := by
        simp [enter, named]
      have hfinish : finishElement ⟨rules, true, depth, some (takeParts .empty parts), none⟩ tag.localName =
          ⟨ItemText.into rules (.hint tag named parts), true, depth, none, none⟩ := by
        simp [finishElement, named, ItemText.into]
      rw [itemElements, foldlM_element (by omega) henter (foldlM_parts (by omega) parts), hfinish, ih]
      rfl
    | duplication tag named d spelled =>
      have hfinish : ∀ s, finishElement ⟨s, true, depth, none, none⟩ tag.localName =
          ⟨s, true, depth, none, none⟩ := by
        simp [finishElement, named]
      rw [itemElements, foldlM_element (by omega) (enter_duplication named spelled) rfl, hfinish, ih]
      rfl

end Draft

/-! ## Taking elements gives what they spell -/

namespace HintRule

/-- The observations of a rule in a part, on an axis. -/
def evidence (r : HintRule) : Part → Axis → List Evidence
  | .given => r.given.get
  | .add => r.add.get
  | .remove => r.remove.get

/-- A rule consists of its patterns and its observations. -/
theorem eq_of_evidence {r s : HintRule} (hpatterns : r.patterns = s.patterns)
    (h : ∀ part a, r.evidence part a = s.evidence part a) : r = s := by
  have hsets : ∀ {x y : EvidenceSets}, (∀ a, x.get a = y.get a) → x = y := by
    rintro ⟨_, _, _⟩ ⟨_, _, _⟩ h
    obtain rfl := h .vendor
    obtain rfl := h .product
    obtain rfl := h .version
    rfl
  obtain ⟨given, patterns, add, remove⟩ := r
  obtain rfl := hsets (h .given)
  obtain rfl := hsets (h .add)
  obtain rfl := hsets (h .remove)
  obtain rfl := hpatterns
  rfl

theorem evidence_push (r : HintRule) (part part' : Part) (a a' : Axis) (e : Evidence) :
    (r.push part a e).evidence part' a' = r.evidence part' a' ++ if part = part' ∧ a = a' then [e] else [] := by
  have hget : ∀ s : EvidenceSets, (s.push a e).get a' = s.get a' ++ if a = a' then [e] else [] := by
    intro s
    cases a <;> cases a' <;> simp [EvidenceSets.push, EvidenceSets.get]
  cases part <;> cases part' <;> simp [push, evidence, hget]

end HintRule

section Taking

variable (r : HintRule) {part : Part} (leaves : List (LeafText part)) (parts : List PartText)

theorem evidence_foldl_leaves (part' : Part) (a : Axis) :
    (leaves.foldl LeafText.into r).evidence part' a =
      r.evidence part' a ++ if part = part' then leaves.filterMap (·.evidence? a) else [] := by
  induction leaves generalizing r with
  | nil => simp
  | cons leaf after ih =>
    rw [List.foldl_cons, ih]
    cases leaf with
    | evidence tag named axis e spelled =>
      rw [LeafText.into, HintRule.evidence_push]
      by_cases hpart : part = part'
      · by_cases haxis : axis = a <;> simp [hpart, haxis, LeafText.evidence?]
      · simp [hpart]
    | fileName tag named given p spelled =>
      have hsame : (LeafText.into r (.fileName tag named given p spelled)).evidence part' a = r.evidence part' a := by
        cases part' <;> rfl
      simp [hsame, LeafText.evidence?]

theorem patterns_foldl_leaves :
    (leaves.foldl LeafText.into r).patterns = r.patterns ++ leaves.filterMap (·.pattern?) := by
  induction leaves generalizing r with
  | nil => simp
  | cons leaf after ih =>
    rw [List.foldl_cons, ih]
    cases leaf with
    | evidence tag named axis e spelled =>
      have hsame : (LeafText.into r (.evidence tag named axis e spelled)).patterns = r.patterns := by
        cases part <;> rfl
      simp [hsame, LeafText.pattern?]
    | fileName tag named given p spelled => simp [LeafText.into, LeafText.pattern?]

theorem evidence_takeParts (part' : Part) (a : Axis) :
    (takeParts r parts).evidence part' a = r.evidence part' a ++ evidenceOf parts part' a := by
  induction parts generalizing r with
  | nil => simp [takeParts, evidenceOf]
  | cons p after ih =>
    rw [takeParts, List.foldl_cons]
    show (takeParts (p.leaves.foldl LeafText.into r) after).evidence part' a = _
    rw [ih, evidence_foldl_leaves, List.append_assoc]
    by_cases hpart : p.part = part' <;> simp [evidenceOf, hpart]

theorem patterns_takeParts : (takeParts r parts).patterns = r.patterns ++ patternsOf parts := by
  induction parts generalizing r with
  | nil => simp [takeParts, patternsOf]
  | cons p after ih =>
    rw [takeParts, List.foldl_cons]
    show (takeParts (p.leaves.foldl LeafText.into r) after).patterns = _
    rw [ih, patterns_foldl_leaves, List.append_assoc]
    rfl

/-- Taking the parts of a hint one after another gives the rule that they spell. -/
theorem takeParts_empty : takeParts .empty parts = ruleOf parts := by
  refine HintRule.eq_of_evidence ?_ fun part a => ?_
  · rw [patterns_takeParts]
    rfl
  · rw [evidence_takeParts]
    cases part <;> cases a <;> rfl

theorem foldl_items (items : List ItemText) (s : RuleSet) :
    items.foldl ItemText.into s =
      s.append ⟨items.filterMap ItemText.rule?, items.filterMap ItemText.duplication?⟩ := by
  induction items generalizing s with
  | nil => simp [RuleSet.append]
  | cons item after ih =>
    rw [List.foldl_cons, ih]
    cases item <;>
      simp [ItemText.into, ItemText.rule?, ItemText.duplication?, takeParts_empty, RuleSet.append, List.filterMap_cons]

end Taking

/-! ## Whole documents -/

/-- The root of a document is taken. -/
theorem step_root (r : RulesText) : Draft.start.step (.opened r.tag.tag) = .ok ⟨.empty, true, 1, none, none⟩ := by
  simp [Draft.step, Draft.open?, Draft.start, r.named, attributesOf_tag, checkVersion_of_spells r.version]

/-- A root with its items is taken from the start on. -/
theorem foldlM_elements (r : RulesText) :
    (r.elements.map TagText.tag).events.foldlM Draft.step .start = .ok ⟨r.rules, true, 0, none, none⟩ := by
  have hclose : Draft.step ⟨r.rules, true, 1, none, none⟩ (.closed r.tag.tag.name) =
      .ok ⟨r.rules, true, 0, none, none⟩ := by
    simp [Draft.step, Draft.close, Draft.finishElement, Draft.shallower, r.named]
  have hitems : ((itemElements r.items).map TagText.tag).events.foldlM Draft.step ⟨.empty, true, 1, none, none⟩ =
      .ok ⟨r.rules, true, 1, none, none⟩ := by
    rw [Draft.foldlM_items (by decide), foldl_items]
    rfl
  rw [RulesText.elements, Elements.map, Elements.events, List.foldlM_cons, step_root, ok_bind, List.foldlM_append,
    hitems, ok_bind, List.foldlM_cons, hclose]
  rfl

/-- **A document in the format is read, and gives what it spells.** It does not matter how the document is written:
which empty elements have one tag and which two, what stands between the tags, and how values are quoted and
escaped. -/
theorem ofText_rules (m : Markup) (r : RulesText) (h : m.elements = r.elements) :
    RuleSet.ofText (String.ofList m.text) = .ok r.rules := by
  have hevents : m.events.foldlM Draft.step .start = .ok ⟨r.rules, true, 0, none, none⟩ := by
    rw [Draft.foldlM_of_spells m.spells_events, h, foldlM_elements]
  rw [RuleSet.ofText, String.toList_ofList, m.read_text, RuleSet.ofReading, hevents]
  rfl

namespace Sample

/-- A character of a value in single quotes. -/
def piece (c : Char) : Piece :=
  if h : c = '&' then .reference ['a', 'm', 'p'] '&' (by decide) (by simp)
  else if c = '\'' then .reference ['a', 'p', 'o', 's'] '\'' (by decide) (by simp)
  else .plain c h

theorem quote_notMem_piece (c : Char) : '\'' ∉ (piece c).text := by
  unfold piece
  split
  · simp [Piece.text]
  · split
    · simp [Piece.text]
    · next hquote => simpa [Piece.text] using Ne.symm hquote

/-- An attribute with its value in single quotes. -/
def quoted (name value : String) (h : name.toList ≠ [] ∧ name.toList.all Xml.isNameChar = true) :
    AttributeText where
  lead := ⟨[' '], by simp [Xml.isSpace]⟩
  apart := by decide
  name := ⟨name.toList, h.1, List.all_eq_true.1 h.2⟩
  before := .none
  behind := .none
  quote := '\''
  isQuote := .inr rfl
  value := value.toList.map piece
  unquoted p hp := by
    obtain ⟨c, -, rfl⟩ := List.mem_map.1 hp
    exact quote_notMem_piece c

/-- A tag with attributes. -/
def tag (name : String) (attributes : List AttributeText)
    (h : name.toList ≠ [] ∧ name.toList.all Xml.isNameChar = true)
    (distinct : (attributes.map fun a => Xml.localName a.name.chars).Nodup) : TagText :=
  ⟨⟨name.toList, h.1, List.all_eq_true.1 h.2⟩, attributes, .none, distinct⟩

def root : TagText := tag "hints" [quoted "version" "1" (by decide)] (by decide) (by decide)

def hint : TagText := tag "hint" [] (by decide) (by decide)

def given : TagText := tag "given" [] (by decide) (by decide)

def add : TagText := tag "add" [] (by decide) (by decide)

def duplicating : TagText :=
  tag "vendorDuplicatingHint" [quoted "value" "a" (by decide), quoted "duplicate" "b" (by decide)] (by decide)
    (by decide)

def fileName : TagText := tag "fileName" [quoted "contains" "a.jar" (by decide)] (by decide) (by decide)

/-- The tag of an observation without a confidence. -/
def product : TagText :=
  tag "evidence" [quoted "type" "Product" (by decide), quoted "source" "jar" (by decide),
    quoted "name" "name" (by decide), quoted "value" "a&b" (by decide)] (by decide) (by decide)

/-- The tag of an observation with a confidence. -/
def vendor : TagText :=
  tag "evidence" [quoted "type" "vendor" (by decide), quoted "source" "hint" (by decide),
    quoted "name" "vendor" (by decide), quoted "value" "c" (by decide),
    quoted "confidence" " highest" (by decide)] (by decide) (by decide)

theorem spells_product : SpellsEvidence product.pairs .given .product ⟨"jar", "name", "a&b", .medium⟩ where
  axis := ⟨"Product", by decide, by unfold IsWord; decide⟩
  source := by decide
  name := by decide
  value := by decide
  confidence := .inr ⟨by decide, by decide, rfl⟩

theorem spells_vendor : SpellsEvidence vendor.pairs .add .vendor ⟨"hint", "vendor", "c", .highest⟩ where
  axis := ⟨"vendor", by decide, by unfold IsWord; decide⟩
  source := by decide
  name := by decide
  value := by decide
  confidence := .inl ⟨" highest", by decide, by unfold IsWord; decide⟩

theorem spells_fileName : SpellsPattern fileName.pairs (.literal "a.jar" false) :=
  ⟨"a.jar", false, by decide, .inr ⟨by decide, rfl⟩, .inl ⟨.inr ⟨by decide, rfl⟩, rfl⟩⟩

theorem version_root (text : String) (h : ("version", text) ∈ root.pairs) : Unicode.trimmed text = "1" := by
  have hpairs : root.pairs = [("version", "1")] := by decide
  obtain rfl : text = "1" := by simpa [hpairs] using h
  decide

/-- A duplication, and a hint with two parts of one kind. -/
def document : RulesText where
  tag := root
  named := by decide
  version := version_root
  items :=
    [.duplication duplicating (by decide) ⟨"a", "b"⟩ ⟨by decide, by decide⟩,
     .hint hint (by decide)
      [⟨given, .given, by decide, [.fileName fileName (by decide) rfl _ spells_fileName]⟩,
       ⟨add, .add, by decide, [.evidence vendor (by decide) _ _ spells_vendor]⟩,
       ⟨given, .given, by decide, [.evidence product (by decide) _ _ spells_product]⟩]]

theorem not_infix_of_notMem {l content : List Char} {x : Char} (hx : x ∈ l) (hcontent : x ∉ content) :
    ¬ l <:+: content := fun h => hcontent (h.subset hx)

/-- The document as it may be written:

```xml
<?xml version='1.0'?><hints version='1'><vendorDuplicatingHint value='a' duplicate='b'/><!-- <hint --><hint>
<given><fileName contains='a.jar'></fileName ></given>
<add><evidence type='vendor' source='hint' name='vendor' value='c' confidence=' highest'/></add>
<given><evidence type='Product' source='jar' name='name' value='a&amp;b'/></given></hint></hints>
```

without the ends of lines. -/
def markup : Markup :=
  .aside (.instruction "xml version='1.0'".toList (not_infix_of_notMem (x := '>') (by decide) (by decide))) <|
  .element root
    (.empty duplicating <|
     .aside (.comment " <hint ".toList (not_infix_of_notMem (x := '>') (by decide) (by decide))) <|
     .element hint
      (.element given (.element fileName .nil ⟨[' '], by simp [Xml.isSpace]⟩ .nil) .none <|
       .element add (.empty vendor .nil) .none <|
       .element given (.empty product .nil) .none .nil)
      .none .nil)
    .none .nil

end Sample

theorem ofText_rules_sample :
    Sample.markup.elements = Sample.document.elements ∧
    RuleSet.ofText (String.ofList Sample.markup.text) = .ok
      ⟨[⟨⟨[], [⟨"jar", "name", "a&b", .medium⟩], []⟩, [.literal "a.jar" false],
        ⟨[⟨"hint", "vendor", "c", .highest⟩], [], []⟩, .empty⟩], [⟨"a", "b"⟩]⟩ := by
  have helements : Sample.markup.elements = Sample.document.elements := rfl
  exact ⟨helements, ofText_rules Sample.markup Sample.document helements⟩

end DependencyEvidence
