import DependencyEvidence.Path
import Mathlib.Data.List.TakeWhile

/-!
# Plain paths

A path is plain if it is spelled by its root and its segments alone (`Path.spelled`): no slash is repeated or comes last,
and no segment is a dot. Such a path can be read off its text, since cutting at the slashes gives the segments back
(`Text.pieces_joined`). So extending it by one step, and taking this step back, are what one expects:

* `Path.IsPlain.join`: the longer path is plain;
* `Path.IsPlain.parent?_join`: its parent is the shorter one, in the same spelling;
* `Path.IsPlain.fileName?_join`: it ends in the name of the step, unless these are two dots.
-/

namespace DependencyEvidence

/-! ## Cutting what was joined -/

namespace Text

variable {sep : Char} {part text : List Char}

theorem pieces_of_notMem (h : sep ∉ part) : pieces sep part = [part] := by
  induction part with
  | nil => rfl
  | cons c rest ih =>
    rw [List.mem_cons, not_or] at h
    rw [pieces, if_neg fun hc => h.1 hc.symm, ih h.2]

/-- The first separator ends the first piece. -/
theorem pieces_append_cons (h : sep ∉ part) (text : List Char) :
    pieces sep (part ++ sep :: text) = part :: pieces sep text := by
  induction part with
  | nil => simp [pieces]
  | cons c rest ih =>
    rw [List.mem_cons, not_or] at h
    rw [List.cons_append, pieces, if_neg fun hc => h.1 hc.symm, ih h.2]

/-- Cutting undoes joining. -/
theorem pieces_joined {parts : List (List Char)} (hne : parts ≠ []) (h : ∀ p ∈ parts, sep ∉ p) :
    pieces sep (joined sep parts) = parts := by
  induction parts with
  | nil => exact absurd rfl hne
  | cons p rest ih =>
    obtain ⟨hp, hrest⟩ := List.forall_mem_cons.1 h
    cases rest with
    | nil => exact pieces_of_notMem hp
    | cons q more => rw [joined, pieces_append_cons hp, ih (by simp) hrest]

theorem joined_concat {parts : List (List Char)} (hne : parts ≠ []) (part : List Char) :
    joined sep (parts ++ [part]) = joined sep parts ++ sep :: part := by
  induction parts with
  | nil => exact absurd rfl hne
  | cons p rest ih =>
    cases rest with
    | nil => rfl
    | cons q more =>
      have hrest := ih (by simp)
      simp only [List.cons_append] at hrest ⊢
      rw [joined, joined, hrest]
      simp

end Text

namespace Path

/-! ## Spelling -/

/-- Whether a text may stand between two slashes of a plain path. -/
def IsSegment (s : List Char) : Prop := s ≠ [] ∧ s ≠ ['.'] ∧ '/' ∉ s

instance (s : List Char) : Decidable (IsSegment s) := inferInstanceAs (Decidable (_ ∧ _))

/-- Whether a text is the name of a file or a directory: a segment other than two dots. -/
def IsName (name : String) : Prop := IsSegment name.toList ∧ name ≠ ".."

instance (name : String) : Decidable (IsName name) := inferInstanceAs (Decidable (_ ∧ _))

/-- What a path from the root, or a relative one, starts with. -/
def rootSpelled (absolute : Bool) : List Char := if absolute then ['/'] else []

/-- The path with these segments, with one slash between every two of them. -/
def spelled (absolute : Bool) (segments : List (List Char)) : Path :=
  ⟨String.ofList (rootSpelled absolute ++ Text.joined '/' segments)⟩

/-- Whether a path is spelled without repeated or trailing slashes, and without dots as segments. -/
def IsPlain (p : Path) : Prop := ∃ absolute segments, (∀ s ∈ segments, IsSegment s) ∧ p = spelled absolute segments

section Spelled

variable {absolute : Bool} {segments : List (List Char)} {s : List Char}

theorem IsSegment.isIdle (h : IsSegment s) : isIdle s = false := by simp [Path.isIdle, h.1, h.2.1]

theorem toList_spelled (absolute : Bool) (segments : List (List Char)) :
    (spelled absolute segments).text.toList = rootSpelled absolute ++ Text.joined '/' segments :=
  String.toList_ofList

/-- The segments begin with a character other than a slash, and not with a dot that stands alone. -/
theorem joined_cases (h : ∀ s ∈ segments, IsSegment s) :
    Text.joined '/' segments = [] ∨ ∃ c rest, Text.joined '/' segments = c :: rest ∧ c ≠ '/' ∧
      (c = '.' → ∃ b more, rest = b :: more ∧ b ≠ '/') := by
  cases segments with
  | nil => exact .inl rfl
  | cons s more =>
    obtain ⟨⟨hne, hdot, hslash⟩, -⟩ := List.forall_mem_cons.1 h
    obtain ⟨tail, htail⟩ : ∃ tail, Text.joined '/' (s :: more) = s ++ tail := by
      cases more with
      | nil => exact ⟨[], (List.append_nil s).symm⟩
      | cons t more => exact ⟨_, rfl⟩
    obtain ⟨c, rest, rfl⟩ := List.exists_cons_of_ne_nil hne
    simp only [List.mem_cons, not_or] at hslash
    refine .inr ⟨c, rest ++ tail, htail, fun hc => hslash.1 hc.symm, fun hc => ?_⟩
    obtain ⟨b, rest, rfl⟩ : ∃ b more, rest = b :: more :=
      List.exists_cons_of_ne_nil fun hnil => hdot (by rw [hc, hnil])
    simp only [List.mem_cons, not_or] at hslash
    exact ⟨b, rest ++ tail, rfl, fun hb => hslash.2.1 hb.symm⟩

theorem lead_spelled (h : ∀ s ∈ segments, IsSegment s) : (spelled absolute segments).lead = rootSpelled absolute := by
  unfold lead
  rw [toList_spelled]
  cases absolute with
  | true => rfl
  | false =>
    simp only [rootSpelled, Bool.false_eq_true, if_false, List.nil_append]
    rcases joined_cases h with hnil | ⟨c, rest, htext, hc, hdot⟩
    · rw [hnil]
    · rw [htext]
      split
      · next heq => exact absurd (List.cons.inj heq).1 hc
      · next heq =>
        obtain ⟨rfl, rfl⟩ := List.cons.inj heq
        obtain ⟨b, more, hrest, -⟩ := hdot rfl
        cases hrest
      · next heq =>
        obtain ⟨rfl, rfl⟩ := List.cons.inj heq
        obtain ⟨b, more, hrest, hb⟩ := hdot rfl
        exact absurd (List.cons.inj hrest).1.symm hb
      · rfl

theorem segments_spelled (hne : segments ≠ []) (h : ∀ s ∈ segments, IsSegment s) :
    (spelled absolute segments).segments = segments := by
  rw [Path.segments, lead_spelled h, toList_spelled, List.drop_left]
  exact Text.pieces_joined hne fun s hs => (h s hs).2.2

/-- One step more is one segment more. -/
theorem join_spelled (h : ∀ s ∈ segments, IsSegment s) {step : String} (hstep : IsSegment step.toList) :
    (spelled absolute segments).join step = spelled absolute (segments ++ [step.toList]) := by
  have hrelative : ¬ (step.toList.head? == some '/') = true := by
    intro hslash
    exact hstep.2.2 (List.mem_of_mem_head? (beq_iff_eq.1 hslash))
  rw [join, if_neg hrelative, toList_spelled]
  cases segments with
  | nil => cases absolute <;> simp [rootSpelled, spelled, Text.joined]
  | cons s more =>
    -- the last segment is not empty and has no slash, so that one is put behind it
    obtain ⟨before, last, hlast⟩ := List.eq_nil_or_concat (s :: more) |>.resolve_left (by simp)
    have hsegment : IsSegment last := h last (by rw [hlast]; simp)
    obtain ⟨init, c, hc⟩ := List.eq_nil_or_concat last |>.resolve_left hsegment.1
    obtain ⟨text, htext⟩ : ∃ text, Text.joined '/' (s :: more) = text ++ [c] := by
      rw [hlast, hc, List.concat_eq_append, List.concat_eq_append]
      by_cases hbefore : before = []
      · exact ⟨init, by rw [hbefore]; rfl⟩
      · exact ⟨Text.joined '/' before ++ '/' :: init, by rw [Text.joined_concat hbefore]; simp⟩
    have hslash : c ≠ '/' := fun he => hsegment.2.2 (by rw [hc, he]; simp)
    rw [htext, ← List.append_assoc, List.getLast?_concat]
    split
    · next heq => cases heq
    · next heq => exact absurd (Option.some.inj heq) hslash
    · rw [spelled, spelled, Text.joined_concat (by simp)]
      simp [String.ext_iff]

/-- The segments behind the last step, read backwards. -/
theorem reverse_segments_spelled (h : ∀ t ∈ segments ++ [s], IsSegment t) :
    (spelled absolute (segments ++ [s])).segments.reverse.dropWhile isIdle = s :: segments.reverse := by
  have hlast : isIdle s = false := (h s (by simp)).isIdle
  rw [segments_spelled (by simp) h, List.reverse_concat, List.dropWhile_cons_of_neg (by simp [hlast])]

/-- The path without its last segment. -/
theorem parent?_spelled (h : ∀ t ∈ segments ++ [s], IsSegment t) :
    (spelled absolute (segments ++ [s])).parent? = some (spelled absolute segments) := by
  have hbefore : segments.reverse.dropWhile isIdle = segments.reverse := by
    refine List.dropWhile_eq_self_iff.2 fun hl => ?_
    have hmem : segments.reverse[0] ∈ segments := List.mem_reverse.1 (List.getElem_mem hl)
    rw [(h _ (List.mem_append_left _ hmem)).isIdle]
    exact Bool.false_ne_true
  rw [parent?, reverse_segments_spelled h]
  simp only [hbefore, List.reverse_reverse, lead_spelled h]
  rfl

/-- The name at the end. -/
theorem fileName?_spelled (h : ∀ t ∈ segments ++ [s], IsSegment t) :
    (spelled absolute (segments ++ [s])).fileName? = if s = ['.', '.'] then none else some (String.ofList s) := by
  rw [fileName?, reverse_segments_spelled h]

end Spelled

/-! ## Steps of plain paths -/

namespace IsPlain

variable {p : Path} {name directory : String}

theorem join (hp : p.IsPlain) (hname : IsSegment name.toList) : (p.join name).IsPlain := by
  obtain ⟨absolute, segments, hsegments, rfl⟩ := hp
  refine ⟨absolute, segments ++ [name.toList], ?_, join_spelled hsegments hname⟩
  simpa [or_imp, forall_and] using ⟨hsegments, hname⟩

/-- A step can be taken back. -/
theorem parent?_join (hp : p.IsPlain) (hname : IsSegment name.toList) : (p.join name).parent? = some p := by
  obtain ⟨absolute, segments, hsegments, rfl⟩ := hp
  rw [join_spelled hsegments hname]
  exact parent?_spelled (by simpa [or_imp, forall_and] using ⟨hsegments, hname⟩)

/-- A step to a name ends there. -/
theorem fileName?_join (hp : p.IsPlain) (hname : IsName name) : (p.join name).fileName? = some name := by
  obtain ⟨absolute, segments, hsegments, rfl⟩ := hp
  have hup : name.toList ≠ ['.', '.'] := fun h => hname.2 (String.toList_inj.1 h)
  rw [join_spelled hsegments hname.1,
    fileName?_spelled (by simpa [or_imp, forall_and] using ⟨hsegments, hname.1⟩), if_neg hup, String.ofList_toList]

theorem parentName?_join (hp : p.IsPlain) (hdirectory : IsName directory) (hname : IsSegment name.toList) :
    ((p.join directory).join name).parentName? = some directory := by
  rw [parentName?, (hp.join hdirectory.1).parent?_join hname]
  exact hp.fileName?_join hdirectory

end IsPlain

end Path

end DependencyEvidence
