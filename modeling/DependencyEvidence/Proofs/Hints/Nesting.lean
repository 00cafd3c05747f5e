import DependencyEvidence.Proofs.Hints.Counting

/-!
# Where elements may stand in a document of rules

The format gives every element its place (`WellPlaced`). A draft knows less than the elements that are open: its place
(`Draft.place`) is the innermost element that is no leaf. So what is written inside a leaf counts as if it stood around
the leaf (`Tolerated`), and what is written behind the root as if it stood in the root.

* `Draft.enter_place`: an element is taken only where its place allows it.
* `Draft.foldlM_events_place`: elements that are taken are tolerated, and leave the place as it was.
* `tolerates_of_ofText`: documents that are read are tolerated. That they are documents and leave no element open is
  known only where the count of open elements has not started again (`Xml.NestsBelow`).
* `conforms_iff`: tolerated documents have the format if leaves are empty and nothing stands behind the root.
-/

namespace DependencyEvidence

open Xml (Elements Event Spells Tag)

/-! ## Places -/

/-- The elements that may stand in an element with a name. -/
def childNames : String → List String
  | "hints" => ["hint", "vendorDuplicatingHint"]
  | "hint" => ["given", "add", "remove"]
  | "given" => ["evidence", "fileName"]
  | "add" => ["evidence"]
  | "remove" => ["evidence"]
  | _ => []

/-- The elements in which no other may stand. -/
def leafNames : List String := ["evidence", "fileName", "vendorDuplicatingHint"]

/-- Whether elements may stand in the element with a name, and likewise what is inside of them. -/
def WellPlaced (place : String) : Elements Tag → Prop
  | .nil => True
  | .cons tag inside after =>
    Xml.localName tag.name ∈ childNames place ∧ WellPlaced (Xml.localName tag.name) inside ∧ WellPlaced place after

/-- Whether a document has one root `hints` with all elements in their places. -/
def Conforms : Elements Tag → Prop
  | .cons root inside .nil => Xml.localName root.name = "hints" ∧ WellPlaced "hints" inside
  | _ => False

/-- The place in an element with a name: a leaf does not make a new one. -/
def placeIn (place name : String) : String := if name ∈ leafNames then place else name

/-- Whether elements may stand in a place if what is inside a leaf may stand around it. -/
def Tolerated (place : String) : Elements Tag → Prop
  | .nil => True
  | .cons tag inside after =>
    Xml.localName tag.name ∈ childNames place ∧ Tolerated (placeIn place (Xml.localName tag.name)) inside ∧
      Tolerated place after

/-- Whether a document starts with a root `hints` with tolerated elements in it and behind it. -/
def Tolerates : Elements Tag → Prop
  | .cons root inside after => Xml.localName root.name = "hints" ∧ Tolerated "hints" inside ∧ Tolerated "hints" after
  | .nil => False

/-- Whether no element stands inside a leaf. -/
def LeavesEmpty : Elements Tag → Prop
  | .nil => True
  | .cons tag inside after =>
    (Xml.localName tag.name ∈ leafNames → inside = .nil) ∧ LeavesEmpty inside ∧ LeavesEmpty after

/-- The elements behind the first one. -/
def behindRoot : Elements Tag → Elements Tag
  | .nil => .nil
  | .cons _ _ after => after

theorem childNames_leaf {name : String} (h : name ∈ leafNames) : childNames name = [] := by
  simp only [leafNames, List.mem_cons, List.not_mem_nil, or_false] at h
  rcases h with rfl | rfl | rfl <;> rfl

theorem wellPlaced_leaf {name : String} (h : name ∈ leafNames) (doc : Elements Tag) :
    WellPlaced name doc ↔ doc = .nil := by
  cases doc <;> simp [WellPlaced, childNames_leaf h]

/-- The two ideas of a place differ in the insides of leaves alone. -/
theorem wellPlaced_iff (place : String) (doc : Elements Tag) :
    WellPlaced place doc ↔ Tolerated place doc ∧ LeavesEmpty doc := by
  induction doc generalizing place with
  | nil => simp [WellPlaced, Tolerated, LeavesEmpty]
  | cons tag inside after ihInside ihAfter =>
    simp only [WellPlaced, Tolerated, LeavesEmpty, ihAfter]
    by_cases hleaf : Xml.localName tag.name ∈ leafNames
    · rw [wellPlaced_leaf hleaf]
      constructor
      · rintro ⟨hname, rfl, hafter⟩
        exact ⟨⟨hname, trivial, hafter.1⟩, fun _ => rfl, trivial, hafter.2⟩
      · rintro ⟨⟨hname, -, hafter⟩, hnil, -, hempty⟩
        exact ⟨hname, hnil hleaf, hafter, hempty⟩
    · rw [ihInside, placeIn, if_neg hleaf]
      constructor
      · rintro ⟨hname, ⟨hinside, hempty⟩, hafter, hempty'⟩
        exact ⟨⟨hname, hinside, hafter⟩, fun h => absurd h hleaf, hempty, hempty'⟩
      · rintro ⟨⟨hname, hinside, hafter⟩, -, hempty, hempty'⟩
        exact ⟨hname, ⟨hinside, hempty⟩, hafter, hempty'⟩

/-- What is tolerated is the format but for insides of leaves and elements behind the root. -/
theorem conforms_iff (doc : Elements Tag) :
    Conforms doc ↔ Tolerates doc ∧ LeavesEmpty doc ∧ behindRoot doc = .nil := by
  cases doc with
  | nil => simp [Conforms, Tolerates]
  | cons root inside after =>
    cases after with
    | cons => simp [Conforms, behindRoot]
    | nil =>
      simp only [Conforms, Tolerates, LeavesEmpty, behindRoot, Tolerated, wellPlaced_iff]
      constructor
      · rintro ⟨hroot, hinside, hempty⟩
        exact ⟨⟨hroot, hinside, trivial⟩, ⟨fun h => absurd (hroot ▸ h) (by decide), hempty, trivial⟩, trivial⟩
      · rintro ⟨⟨hroot, hinside, -⟩, ⟨-, hempty, -⟩, -⟩
        exact ⟨hroot, hinside, hempty⟩

/-! ## What a draft takes -/

theorem exists_eq_ok_of_isOk {ε α : Type} {x : Except ε α} (h : x.isOk = true) : ∃ a, x = .ok a := by
  cases x with
  | error e => simp [Except.isOk, Except.toBool] at h
  | ok a => exact ⟨a, rfl⟩

namespace Draft

/-- The name of the innermost element that is no leaf, as far as a draft knows. -/
def place (d : Draft) : String :=
  match d.current, d.part with
  | none, _ => "hints"
  | some _, none => "hint"
  | some _, some .given => "given"
  | some _, some .add => "add"
  | some _, some .remove => "remove"

/-- An element is taken only where its place allows it. -/
theorem enter_place {d d' : Draft} {t : Tag} (h : d.enter t = .ok d') :
    Xml.localName t.name ∈ childNames d.place ∧ d'.place = placeIn d.place (Xml.localName t.name) ∧
      d'.rootSeen = d.rootSeen := by
  simp only [enter] at h
  split at h
  case h_1 hname hc hp | h_2 hname hc hp | h_3 hname hc hp | h_4 hname hc hp =>
    cases h
    simp [place, hc, hp, hname, placeIn, childNames, leafNames]
  case h_5 part hname hc hp =>
    obtain ⟨_, -, ⟨_, _⟩, -, h⟩ := by simpa only [bind_eq_ok] using h
    cases h
    cases part <;> simp [place, hc, hp, hname, placeIn, childNames, leafNames]
  case h_6 hname hc hp | h_7 hname hc hp =>
    obtain ⟨_, -, _, -, h⟩ := by simpa only [bind_eq_ok] using h
    cases h
    simp [place, hc, hp, hname, placeIn, childNames, leafNames]
  case h_8 => cases h

/-- The end of an element leads back to the place around it. -/
theorem finishElement_place {d : Draft} {outer name : String} (hname : name ∈ childNames outer)
    (h : d.place = placeIn outer name) : (d.finishElement name).place = outer := by
  simp only [childNames] at hname
  simp only [place] at h
  split at hname <;> simp only [List.mem_cons, List.not_mem_nil, or_false] at hname
  case h_1 | h_2 | h_3 =>
    rcases hname with rfl | rfl | rfl <;> split at h <;>
      simp_all [placeIn, leafNames, finishElement, place]
  case h_4 | h_5 =>
    subst hname
    split at h <;> simp_all [placeIn, leafNames, finishElement, place]

theorem rootSeen_finishElement (d : Draft) (name : String) : (d.finishElement name).rootSeen = d.rootSeen := by
  unfold finishElement
  split
  · rfl
  · split
    · cases d.current <;> rfl
    · rfl

/-- A start tag behind the root has to be an element in its place. -/
theorem open?_seen {d d' : Draft} {t : Tag} (hseen : d.rootSeen) (h : d.step (.opened t) = .ok d') :
    Xml.localName t.name ∈ childNames d.place ∧ d'.place = placeIn d.place (Xml.localName t.name) ∧ d'.rootSeen := by
  simp only [step, open?, hseen, if_true, bind_eq_ok] at h
  obtain ⟨d₁, he, h⟩ := h
  cases h
  obtain ⟨hname, hplace, hroot⟩ := enter_place he
  exact ⟨hname, hplace, hroot.trans hseen⟩

/-- Elements that are taken behind the start of the root are tolerated, and leave the place as it was. -/
theorem foldlM_events_place (doc : Elements Tag) {d d' : Draft} (hseen : d.rootSeen)
    (h : doc.events.foldlM step d = .ok d') : Tolerated d.place doc ∧ d'.place = d.place ∧ d'.rootSeen := by
  induction doc generalizing d d' with
  | nil => cases h; exact ⟨trivial, rfl, hseen⟩
  | cons t inside after ihInside ihAfter =>
    simp only [Elements.events, List.foldlM_cons, List.foldlM_append, bind_eq_ok] at h
    obtain ⟨d₁, hopen, d₂, hinside, d₃, hclose, hafter⟩ := h
    obtain ⟨hname, hplace, hseen₁⟩ := open?_seen hseen hopen
    obtain ⟨hin, hplace₂, hseen₂⟩ := ihInside hseen₁ hinside
    cases hclose
    have hplace₃ : (d₂.close t.name).place = d.place :=
      finishElement_place hname (hplace₂.trans hplace)
    have hseen₃ : (d₂.close t.name).rootSeen := (rootSeen_finishElement d₂ _).trans hseen₂
    obtain ⟨haft, hplace', hseen'⟩ := ihAfter hseen₃ hafter
    rw [hplace₃] at haft hplace'
    exact ⟨⟨hname, hplace ▸ hin, haft⟩, hplace', hseen'⟩

/-- A document that is taken from the start on begins with the root, and is tolerated. -/
theorem foldlM_start {doc : Elements Tag} {d : Draft} (h : doc.events.foldlM step .start = .ok d)
    (hseen : d.rootSeen) : Tolerates doc := by
  cases doc with
  | nil => cases h; simp [start] at hseen
  | cons root inside after =>
    simp only [Elements.events, List.foldlM_cons, List.foldlM_append, bind_eq_ok] at h
    obtain ⟨d₁, hopen, d₂, hinside, d₃, hclose, hafter⟩ := h
    simp only [step, open?, start] at hopen
    split at hopen
    · next h => simp at h
    split at hopen
    · next hname =>
      simp only [bind_eq_ok] at hopen
      obtain ⟨_, -, _, -, hopen⟩ := hopen
      cases hopen
      obtain ⟨hin, hplace, hseen₂⟩ := foldlM_events_place inside rfl hinside
      cases hclose
      have hfinish : d₂.finishElement (Xml.localName root.name) = d₂ := by simp [finishElement, hname]
      have hplace₃ : (d₂.close root.name).place = "hints" := by
        rw [close, hfinish]
        exact hplace
      have hseen₃ : (d₂.close root.name).rootSeen := (rootSeen_finishElement d₂ _).trans hseen₂
      obtain ⟨haft, -, -⟩ := foldlM_events_place after hseen₃ hafter
      exact ⟨hname, hin, hplace₃ ▸ haft⟩
    · cases hopen

end Draft

/-! ## Documents that are read -/

/-- What is read is complete. If it is a document, in which every element is closed, its elements stand in places that a
draft tolerates, and it has the format if leaves are empty and nothing stands behind the root. And it is a document
unless 2 ^ 32 elements are open at once somewhere. -/
theorem tolerates_of_ofText {text : String} {rules : RuleSet} (h : RuleSet.ofText text = .ok rules) :
    (Xml.read text.toList).complete ∧
    (Xml.openAt text.toList = [] ∨ Xml.NestsBelow UInt32.size (Xml.read text.toList).events →
      ∃ doc, Spells (Xml.read text.toList).events doc ∧ Tolerates doc ∧
        (Conforms doc ↔ LeavesEmpty doc ∧ behindRoot doc = .nil)) := by
  have hnest := Xml.nesting_read text.toList
  simp only [RuleSet.ofText, RuleSet.ofReading, bind_eq_ok] at h
  obtain ⟨d, hfold, h⟩ := h
  split at h
  · next hcomplete =>
    refine ⟨hcomplete, fun hroom => ?_⟩
    simp only [Draft.finish] at h
    split at h
    · cases h
    next hseen =>
    split at h
    · cases h
    next hdepth =>
    have hdepth : d.depth = 0 := by simpa using fun h => hdepth (.inl h)
    have hclosed : Xml.openAt text.toList = [] := by
      refine hroom.elim id fun hroom => List.eq_nil_of_length_eq_zero ?_
      rw [← Draft.toNat_foldl_count hnest hroom]
      exact congrArg UInt32.toNat ((Draft.foldlM_depth hfold).symm.trans hdepth)
    rw [hclosed] at hnest
    obtain ⟨doc, hspells⟩ := Xml.exists_spells hnest
    rw [Draft.foldlM_of_spells hspells] at hfold
    have htolerates := Draft.foldlM_start hfold (by simpa using hseen)
    exact ⟨doc, hspells, htolerates, by simp [conforms_iff, htolerates]⟩
  · cases h

theorem tolerates_of_ofText_hint :
    ∃ rules, RuleSet.ofText "<hints><hint><given/></hint></hints>" = .ok rules ∧
      Xml.openAt "<hints><hint><given/></hint></hints>".toList = [] ∧
      (Xml.read "<hints><hint><given/></hint></hints>".toList).complete ∧
      ∃ doc, Spells (Xml.read "<hints><hint><given/></hint></hints>".toList).events doc ∧ Tolerates doc ∧
        (Conforms doc ↔ LeavesEmpty doc ∧ behindRoot doc = .nil) := by
  have hok : (RuleSet.ofText "<hints><hint><given/></hint></hints>").isOk = true := by decide +kernel
  have hclosed : Xml.openAt "<hints><hint><given/></hint></hints>".toList = [] := by decide +kernel
  cases h : RuleSet.ofText "<hints><hint><given/></hint></hints>" with
  | error e => simp [h, Except.isOk, Except.toBool] at hok
  | ok rules =>
    obtain ⟨hcomplete, hdoc⟩ := tolerates_of_ofText h
    exact ⟨rules, rfl, hclosed, hcomplete, hdoc (.inl hclosed)⟩

/-- Not every document that is read has the format: here a leaf holds a rule. -/
theorem not_conforms_of_ofText :
    ¬ ∀ text rules, RuleSet.ofText text = .ok rules →
      ∃ doc, Spells (Xml.read text.toList).events doc ∧ Conforms doc := by
  intro hall
  have hok : (RuleSet.ofText
      "<hints><vendorDuplicatingHint value='a' duplicate='b'><hint/></vendorDuplicatingHint></hints>").isOk = true := by
    decide +kernel
  have hspells : Spells (Xml.read
      "<hints><vendorDuplicatingHint value='a' duplicate='b'><hint/></vendorDuplicatingHint></hints>".toList).events
      (.cons ⟨"hints".toList, []⟩
        (.cons ⟨"vendorDuplicatingHint".toList, " value='a' duplicate='b'".toList⟩
          (.cons ⟨"hint".toList, []⟩ .nil .nil) .nil) .nil) := by
    unfold Spells
    decide +kernel
  cases h : RuleSet.ofText
      "<hints><vendorDuplicatingHint value='a' duplicate='b'><hint/></vendorDuplicatingHint></hints>" with
  | error e => simp [h, Except.isOk, Except.toBool] at hok
  | ok rules =>
    obtain ⟨doc, hdoc, hconforms⟩ := hall _ rules h
    obtain rfl := hdoc.unique hspells
    have hempty := ((conforms_iff _).1 hconforms).2.1
    simp [LeavesEmpty, leafNames, Xml.localName] at hempty

end DependencyEvidence
