import DependencyEvidence.Proofs.Hints.EmptyTags
import DependencyEvidence.Proofs.Hints.Format
import Mathlib.Logic.Relation

/-!
# Declarations of namespaces

Attributes are kept by their names without namespaces. So a declaration `xmlns:p="…"` is kept as an attribute `p`, and
does nothing as long as nobody reads an attribute of that name: which depends on the element (`attributeNames`), on `p`,
and on the attributes behind the declaration, since of equal names the last one counts.

* `Xml.exists_read_tag`: a tag in a document is one event, whatever its attributes, and nothing else depends on these.
* `Draft.open?_congr`: a draft takes two tags alike if they agree on the attributes that are read of their element.
* `Xml.Attributes.get?_insert`: what one more attribute changes.
* `RuleSet.ofText_of_declarations`: declarations that are harmless (`Xml.DeclaringTag.Harmless`) change nothing.
* `RuleSet.ofText_not_of_declarations`: others may; here one counts as the version of the document.
-/

namespace DependencyEvidence

/-! ## Tags with a declaration -/

namespace Xml

/-- A written tag with the declaration of a namespace among its attributes. No two of its attributes have the same full
name. -/
structure DeclaringTag where
  name : Name
  front : List AttributeText
  declaration : AttributeText
  back : List AttributeText
  trail : Blanks
  isEmpty : Bool
  declares : declaration.name.chars = "xmlns".toList ∨
    ∃ p, p ≠ [] ∧ declaration.name.chars = "xmlns:".toList ++ p
  distinct : ((front ++ declaration :: back).map (·.name.chars)).Nodup

/-- A start tag or an empty tag with something behind its name. -/
def writtenTag (name : Name) (rest : List Char) (isEmpty : Bool) : List Char :=
  '<' :: (name.chars ++ rest ++ if isEmpty then ['/', '>'] else ['>'])

/-- The event of a start tag or an empty tag. -/
def tagEvent (t : Tag) (isEmpty : Bool) : Event := if isEmpty then .empty t else .opened t

namespace DeclaringTag

/-- What stands behind the name. -/
def rest (t : DeclaringTag) : List Char :=
  (t.front ++ t.declaration :: t.back).flatMap AttributeText.text ++ t.trail.chars

/-- What stands behind the name but for the declaration. -/
def plainRest (t : DeclaringTag) : List Char := (t.front ++ t.back).flatMap AttributeText.text ++ t.trail.chars

/-- The tag as it is written. -/
def text (t : DeclaringTag) : List Char := writtenTag t.name t.rest t.isEmpty

/-- The tag without the declaration. -/
def plain (t : DeclaringTag) : List Char := writtenTag t.name t.plainRest t.isEmpty

end DeclaringTag

/-- Whether a text is another one with one more declaration, in a tag with some property. -/
def Declares (P : DeclaringTag → Prop) (text text' : List Char) : Prop :=
  ∃ before after t, outsideMarkup before = true ∧ P t ∧ text = before ++ t.plain ++ after ∧
    text' = before ++ t.text ++ after

/-! ## Documents with other attributes in a tag -/

theorem Reader.foldl_writtenTag (name : Name) {rest : List Char} (h : Reader.Follows rest) (isEmpty : Bool)
    (done : List Event) (names : List (List Char)) :
    (writtenTag name rest isEmpty).foldl Reader.advance ⟨done, names, .text⟩ =
      ⟨tagEvent ⟨name.chars, rest⟩ isEmpty :: done, if isEmpty then names else name.chars :: names, .text⟩ := by
  cases isEmpty with
  | true => exact foldl_empty name h
  | false => exact foldl_opened name h

/-- A tag outside of markup is one event among others that do not depend on its attributes; or, behind a fault, it is
not read at all. -/
theorem exists_read_tag (before after : List Char) (h : outsideMarkup before = true) (name : Name) (isEmpty : Bool) :
    (∃ first last complete, ∀ rest, Reader.Follows rest →
      read (before ++ writtenTag name rest isEmpty ++ after) =
        ⟨first ++ tagEvent ⟨name.chars, rest⟩ isEmpty :: last, complete⟩) ∨
    ∃ reading, ∀ rest, read (before ++ writtenTag name rest isEmpty ++ after) = reading := by
  have hread : ∀ rest, read (before ++ writtenTag name rest isEmpty ++ after) =
      (after.foldl Reader.advance ((writtenTag name rest isEmpty).foldl Reader.advance
        ((withoutMark before).foldl Reader.advance .start))).reading :=
    fun rest => read_append before (writtenTag name rest isEmpty) after rfl
  rw [outsideMarkup] at h
  generalize (withoutMark before).foldl Reader.advance .start = r at h hread
  obtain ⟨done, names, mode⟩ := r
  cases mode with
  | text =>
    -- but for the events, the reader is the same behind the tag
    let reader := after.foldl Reader.advance ⟨[], if isEmpty then names else name.chars :: names, .text⟩
    refine .inl ⟨done.reverse, reader.done.reverse, reader.mode.isText, fun rest hrest => ?_⟩
    have habove := Reader.foldl_above after ⟨[], if isEmpty then names else name.chars :: names, .text⟩
      (tagEvent ⟨name.chars, rest⟩ isEmpty :: done)
    rw [hread, Reader.foldl_writtenTag name hrest]
    rw [Reader.above, List.nil_append] at habove
    rw [habove]
    simp [Reader.reading, Reader.above, reader]
  | broken =>
    refine .inr ⟨Reader.reading ⟨done, names, .broken⟩, fun rest => ?_⟩
    rw [hread, Reader.foldl_broken, Reader.foldl_broken]
  | _ => cases h

/-! ## One more attribute -/

/-- One more attribute counts if it has the name and no attribute behind it has. -/
theorem Attributes.get?_insert (front back : Attributes) (x : String × String) (key : String) :
    Attributes.get? (front ++ x :: back) key =
      if key = x.1 ∧ x.1 ∉ back.map Prod.fst then some x.2 else Attributes.get? (front ++ back) key := by
  have happend : ∀ a b : Attributes, Attributes.get? (a ++ b) key = (b.get? key).or (a.get? key) := fun a b => by
    rw [Attributes.get?, List.reverse_append, List.lookup_append]
    rfl
  have hone : Attributes.get? [x] key = if key = x.1 then some x.2 else none := by
    rw [Attributes.get?, List.reverse_singleton, List.lookup_cons, List.lookup_nil, beq_eq_decide]
    split <;> simp_all
  rw [show front ++ x :: back = front ++ [x] ++ back by simp, happend, happend front [x], happend front back, hone]
  by_cases hkey : key = x.1
  · subst hkey
    by_cases hback : x.1 ∈ back.map Prod.fst
    · -- an attribute behind has the name
      obtain ⟨value, hvalue⟩ : ∃ value, back.get? x.1 = some value :=
        Option.ne_none_iff_exists'.1 fun h => get?_eq_none_iff.1 h hback
      simp [hvalue, hback]
    · simp [get?_of_not_mem hback, hback]
  · simp [hkey]

end Xml

/-! ## Attributes that are read -/

/-- The names of the attributes that are read of an element. -/
def attributeNames : String → List String
  | "hints" => ["version"]
  | "evidence" => ["type", "confidence", "source", "name", "value"]
  | "fileName" => ["contains", "caseSensitive", "regex"]
  | "vendorDuplicatingHint" => ["value", "duplicate"]
  | _ => []

open Xml (Attributes DeclaringTag Tag)

section Reading

variable {a a' : Attributes}

theorem readEvidence_congr (h : ∀ key ∈ attributeNames "evidence", a.get? key = a'.get? key) (part : Part) :
    readEvidence a part = readEvidence a' part := by
  simp only [attributeNames, List.forall_mem_cons] at h
  obtain ⟨htype, hconfidence, hsource, hname, hvalue, -⟩ := h
  simp only [readEvidence, required, htype, hconfidence, hsource, hname, hvalue]

theorem readPattern_congr (h : ∀ key ∈ attributeNames "fileName", a.get? key = a'.get? key) :
    readPattern a = readPattern a' := by
  simp only [attributeNames, List.forall_mem_cons] at h
  obtain ⟨hcontains, hcase, hregex, -⟩ := h
  simp only [readPattern, required, flag, hcontains, hcase, hregex]

theorem readDuplication_congr (h : ∀ key ∈ attributeNames "vendorDuplicatingHint", a.get? key = a'.get? key) :
    readDuplication a = readDuplication a' := by
  simp only [attributeNames, List.forall_mem_cons] at h
  obtain ⟨hvalue, hduplicate, -⟩ := h
  simp only [readDuplication, required, hvalue, hduplicate]

theorem checkVersion_congr (h : ∀ key ∈ attributeNames "hints", a.get? key = a'.get? key) :
    checkVersion a = checkVersion a' := by
  simp only [attributeNames, List.forall_mem_cons] at h
  simp only [checkVersion, h.1]

end Reading

namespace Draft

variable {t t' : Tag} {a a' : Attributes}

/-- A draft takes two elements alike if they agree on what is read of them. -/
theorem enter_congr (hname : t'.name = t.name) (ha : t.attributes? = some a) (ha' : t'.attributes? = some a')
    (h : ∀ key ∈ attributeNames (Xml.localName t.name), a.get? key = a'.get? key) (d : Draft) :
    d.enter t = d.enter t' := by
  have hread : attributesOf t = .ok a := by rw [attributesOf, ha]
  have hread' : attributesOf t' = .ok a' := by rw [attributesOf, ha']
  simp only [enter, hname, hread, hread', ok_bind]
  split
  case h_5 hn _ _ => rw [readEvidence_congr (hn ▸ h)]
  case h_6 hn _ _ => rw [readPattern_congr (hn ▸ h)]
  case h_7 hn _ _ => rw [readDuplication_congr (hn ▸ h)]
  all_goals rfl

theorem open?_congr (hname : t'.name = t.name) (ha : t.attributes? = some a) (ha' : t'.attributes? = some a')
    (h : ∀ key ∈ attributeNames (Xml.localName t.name), a.get? key = a'.get? key) (d : Draft) (isEmpty : Bool) :
    d.open? t isEmpty = d.open? t' isEmpty := by
  have hread : attributesOf t = .ok a := by rw [attributesOf, ha]
  have hread' : attributesOf t' = .ok a' := by rw [attributesOf, ha']
  simp only [open?, enter_congr hname ha ha' h d, hname, hread, hread', ok_bind]
  by_cases hroot : Xml.localName t.name = "hints"
  · rw [checkVersion_congr (hroot ▸ h)]
  · simp only [if_neg hroot]

end Draft

/-! ## Declarations that do nothing -/

namespace Xml.DeclaringTag

/-- The name by which the declaration is kept: the prefix that it declares, or `xmlns` if it declares none. -/
def key (t : DeclaringTag) : String := localName t.declaration.name.chars

/-- Whether the declaration counts for nothing: no attribute with its name is read of the element, or one stands behind
it. -/
def Harmless (t : DeclaringTag) : Prop :=
  t.key ∉ attributeNames (localName t.name.chars) ∨ t.key ∈ t.back.map fun a => localName a.name.chars

instance (t : DeclaringTag) : Decidable t.Harmless := inferInstanceAs (Decidable (_ ∨ _))

variable (t : DeclaringTag)

theorem attributes?_rest :
    Tag.attributes? ⟨t.name.chars, t.rest⟩ = some ((t.front ++ t.declaration :: t.back).map AttributeText.pair) :=
  attributes?_text t.distinct t.trail t.name.chars

theorem attributes?_plainRest :
    Tag.attributes? ⟨t.name.chars, t.plainRest⟩ = some ((t.front ++ t.back).map AttributeText.pair) := by
  have hsub : ((t.front ++ t.back).map (·.name.chars)).Sublist
      ((t.front ++ t.declaration :: t.back).map (·.name.chars)) :=
    ((List.sublist_cons_self _ _).append_left _).map _
  exact attributes?_text (t.distinct.sublist hsub) t.trail t.name.chars

/-- The attributes that are read of a tag are the same with a harmless declaration and without it. -/
theorem Harmless.get?_eq {t : DeclaringTag} (h : t.Harmless) :
    ∀ key ∈ attributeNames (localName t.name.chars),
      Attributes.get? ((t.front ++ t.back).map AttributeText.pair) key =
        Attributes.get? ((t.front ++ t.declaration :: t.back).map AttributeText.pair) key := by
  intro key hkey
  have hback : (t.back.map AttributeText.pair).map Prod.fst = t.back.map fun a => localName a.name.chars := by
    rw [List.map_map]
    rfl
  rw [List.map_append, List.map_append, List.map_cons, Attributes.get?_insert, hback, if_neg]
  rintro ⟨rfl, hnone⟩
  exact h.elim (fun hread => hread hkey) hnone

end Xml.DeclaringTag

/-- A draft takes the tag alike with a harmless declaration and without it. -/
theorem Draft.step_declaringTag {t : DeclaringTag} (h : t.Harmless) (d : Draft) :
    d.step (Xml.tagEvent ⟨t.name.chars, t.plainRest⟩ t.isEmpty) =
      d.step (Xml.tagEvent ⟨t.name.chars, t.rest⟩ t.isEmpty) := by
  have hopen : ∀ isEmpty, d.open? ⟨t.name.chars, t.plainRest⟩ isEmpty = d.open? ⟨t.name.chars, t.rest⟩ isEmpty := by
    intro isEmpty
    refine open?_congr ?_ t.attributes?_plainRest t.attributes?_rest h.get?_eq d isEmpty
    rfl
  cases t.isEmpty with
  | true => exact hopen true
  | false => exact hopen false

/-! ## Documents with declarations -/

/-- Whether a draft takes two documents alike, and both are XML up to their ends or none is. -/
structure TakenAlike (text text' : List Char) : Prop where
  drafts : (Xml.read text).events.foldlM Draft.step .start = (Xml.read text').events.foldlM Draft.step .start
  complete : (Xml.read text).complete = (Xml.read text').complete

namespace TakenAlike

variable {text text' text'' : List Char}

theorem trans (h : TakenAlike text text') (h' : TakenAlike text' text'') : TakenAlike text text'' :=
  ⟨h.drafts.trans h'.drafts, h.complete.trans h'.complete⟩

theorem ofText (h : TakenAlike text text') :
    RuleSet.ofText (String.ofList text) = RuleSet.ofText (String.ofList text') := by
  rw [RuleSet.ofText, RuleSet.ofText, String.toList_ofList, String.toList_ofList, RuleSet.ofReading,
    RuleSet.ofReading, h.drafts, h.complete]

/-- A harmless declaration in a tag does nothing to a document. -/
theorem of_declares (h : Xml.Declares DeclaringTag.Harmless text text') : TakenAlike text text' := by
  obtain ⟨before, after, t, hbefore, hharmless, rfl, rfl⟩ := h
  rcases Xml.exists_read_tag before after hbefore t.name t.isEmpty with
    ⟨first, last, complete, hread⟩ | ⟨reading, hread⟩
  · have hplain := hread t.plainRest (Xml.Reader.follows_attributes _ _)
    have htext := hread t.rest (Xml.Reader.follows_attributes _ _)
    constructor
    · rw [DeclaringTag.plain, DeclaringTag.text, hplain, htext, List.foldlM_append, List.foldlM_append]
      simp only [List.foldlM_cons, Draft.step_declaringTag hharmless]
    · rw [DeclaringTag.plain, DeclaringTag.text, hplain, htext]
  · -- nothing is read behind a fault
    constructor <;> rw [DeclaringTag.plain, DeclaringTag.text, hread, hread]

end TakenAlike

/-- **Declarations of namespaces do nothing as long as they are harmless.** However many are added to a document, one
after another, in whichever tags and between whichever attributes, and whether or not the document is one of rules: it
gives the same rules or the same error. A draft takes the tags alike, and both documents are XML up to their ends or
none is, so that the error comes from the same check. -/
theorem RuleSet.ofText_of_declarations {text text' : List Char}
    (h : Relation.ReflTransGen (Xml.Declares DeclaringTag.Harmless) text text') :
    RuleSet.ofText (String.ofList text) = RuleSet.ofText (String.ofList text') ∧
    (Xml.read text).events.foldlM Draft.step .start = (Xml.read text').events.foldlM Draft.step .start ∧
    (Xml.read text).complete = (Xml.read text').complete := by
  have halike : TakenAlike text text' := by
    induction h with
    | refl => exact ⟨rfl, rfl⟩
    | tail _ hlast ih => exact ih.trans (.of_declares hlast)
  exact ⟨halike.ofText, halike.drafts, halike.complete⟩

theorem Sample.isName_version : "version".toList ≠ [] ∧ "version".toList.all Xml.isNameChar = true := by decide

/-- A root with a version, and a prefix of that name declared before it. -/
def versionBehind : DeclaringTag where
  name := ⟨"hints".toList, by decide, List.all_eq_true.1 (by decide)⟩
  front := []
  declaration := Sample.quoted "xmlns:version" "urn:rules" (by decide)
  back := [Sample.quoted "version" "1" Sample.isName_version]
  trail := .none
  isEmpty := true
  declares := .inr ⟨"version".toList, by decide, by decide⟩
  distinct := by decide

theorem RuleSet.ofText_of_declarations_behind :
    versionBehind.Harmless ∧
    String.ofList versionBehind.plain = "<hints version='1'/>" ∧
    String.ofList versionBehind.text = "<hints xmlns:version='urn:rules' version='1'/>" ∧
    RuleSet.ofText "<hints version='1'/>" = RuleSet.ofText "<hints xmlns:version='urn:rules' version='1'/>" := by
  have hharmless : versionBehind.Harmless := by decide
  have hplain : String.ofList versionBehind.plain = "<hints version='1'/>" := by decide
  have htext : String.ofList versionBehind.text = "<hints xmlns:version='urn:rules' version='1'/>" := by decide
  have hdeclares : Xml.Declares DeclaringTag.Harmless versionBehind.plain versionBehind.text :=
    ⟨[], [], versionBehind, rfl, hharmless, by simp, by simp⟩
  refine ⟨hharmless, hplain, htext, ?_⟩
  rw [← hplain, ← htext]
  exact (ofText_of_declarations (.single hdeclares)).1

/-- A root with a version, and a prefix of that name declared behind it. -/
def versionBefore : DeclaringTag where
  name := ⟨"hints".toList, by decide, List.all_eq_true.1 (by decide)⟩
  front := [Sample.quoted "version" "1" Sample.isName_version]
  declaration := Sample.quoted "xmlns:version" "urn:rules" (by decide)
  back := []
  trail := .none
  isEmpty := true
  declares := .inr ⟨"version".toList, by decide, by decide⟩
  distinct := by decide

/-- Not every declaration is harmless: here it hides the version. -/
theorem RuleSet.ofText_not_of_declarations :
    ¬ ∀ text text', Relation.ReflTransGen (Xml.Declares fun _ => True) text text' →
      RuleSet.ofText (String.ofList text) = RuleSet.ofText (String.ofList text') := by
  intro hall
  have hdeclares : Xml.Declares (fun _ => True) versionBefore.plain versionBefore.text :=
    ⟨[], [], versionBefore, rfl, trivial, by simp, by simp⟩
  have heq := hall versionBefore.plain versionBefore.text (.single hdeclares)
  have hplain : (RuleSet.ofText (String.ofList versionBefore.plain)).isOk = true := by decide +kernel
  have htext : (RuleSet.ofText (String.ofList versionBefore.text)).isOk = false := by decide +kernel
  rw [heq, htext] at hplain
  cases hplain

end DependencyEvidence
