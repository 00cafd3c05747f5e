import DependencyEvidence.Proofs.Path.Plain

/-!
# Components of paths

A path may be spelled in many ways, with repeated slashes, trailing slashes and inner dots. What is read off a path does
not depend on its spelling, and what is made of a path is made of its components:

* `fileName?_eq` and `parentName?_eq`: the name at the end, and that of the directory, are read off the components, so
  that they are the same for all spellings;
* `components_of_parent?`: a parent has all components but the last one;
* `components_join`: a step puts one component behind.

A path is its lead, and behind that a text that is cut at the slashes. Both operations change the text behind a slash
only, and so they leave the lead as it is (`leadOf_append`).
-/

namespace DependencyEvidence

/-! ## Cutting and joining -/

namespace Text

variable {sep : Char}

/-- A separator parts the pieces before it from those behind it. -/
theorem pieces_append_sep (before after : List Char) :
    pieces sep (before ++ sep :: after) = pieces sep before ++ pieces sep after := by
  induction before with
  | nil => simp [pieces]
  | cons c rest ih =>
    obtain ⟨p, more, hp⟩ := List.exists_cons_of_ne_nil (pieces_ne_nil sep rest)
    rw [List.cons_append, pieces, pieces, ih, hp]
    split <;> rfl

/-- No piece holds a separator. -/
theorem notMem_of_mem_pieces {text part : List Char} (h : part ∈ pieces sep text) : sep ∉ part := by
  induction text generalizing part with
  | nil =>
    rw [pieces, List.mem_singleton] at h
    exact h ▸ List.not_mem_nil
  | cons c rest ih =>
    obtain ⟨p, more, hp⟩ := List.exists_cons_of_ne_nil (pieces_ne_nil sep rest)
    rw [pieces, hp] at h
    rw [hp] at ih
    split at h
    · rcases List.mem_cons.1 h with rfl | h
      · exact List.not_mem_nil
      · exact ih h
    · next hc =>
      rcases List.mem_cons.1 h with rfl | h
      · exact List.mem_cons.not.2 (not_or.2 ⟨fun heq => hc heq.symm, ih List.mem_cons_self⟩)
      · exact ih (List.mem_cons_of_mem _ h)

theorem joined_append {parts more : List (List Char)} (hparts : parts ≠ []) (hmore : more ≠ []) :
    joined sep (parts ++ more) = joined sep parts ++ sep :: joined sep more := by
  induction parts with
  | nil => exact absurd rfl hparts
  | cons p rest ih =>
    cases rest with
    | nil =>
      obtain ⟨q, others, rfl⟩ := List.exists_cons_of_ne_nil hmore
      rfl
    | cons q others =>
      have hrest := ih (List.cons_ne_nil q others)
      simp only [List.cons_append] at hrest ⊢
      rw [joined, joined, hrest]
      simp

end Text

/-- The name that a component is. -/
def PathComponent.name? : PathComponent → Option String
  | .name text => some (String.ofList text)
  | _ => none

namespace Path

/-! ## The lead of a path -/

section Lead

variable {text more : List Char}

/-- The lead of the path with this text. -/
def leadOf : List Char → List Char
  | '/' :: _ => ['/']
  | ['.'] => ['.']
  | '.' :: '/' :: _ => ['.']
  | _ => []

theorem lead_eq (p : Path) : p.lead = leadOf p.text.toList := rfl

theorem leadOf_append_drop (text : List Char) : leadOf text ++ text.drop (leadOf text).length = text := by
  fun_cases leadOf text <;> rfl

theorem length_leadOf_le (text : List Char) : (leadOf text).length ≤ text.length := by
  have h := congrArg List.length (leadOf_append_drop text)
  rw [List.length_append] at h
  omega

theorem leadOf_leadOf (text : List Char) : leadOf (leadOf text) = leadOf text := by
  fun_cases leadOf text <;> rfl

/-- What comes behind a text leaves its lead, unless it goes on with a segment that is a dot. -/
theorem leadOf_append (hne : text ≠ []) (hdot : text = ['.'] → more.head? = some '/') :
    leadOf (text ++ more) = leadOf text := by
  fun_cases leadOf text with
  | case1 => rfl
  | case2 =>
    obtain ⟨rest, rfl⟩ := List.head?_eq_some_iff.1 (hdot rfl)
    rfl
  | case3 => rfl
  | case4 _ hroot hhere hstep =>
    obtain ⟨c, rest, rfl⟩ := List.exists_cons_of_ne_nil hne
    refine leadOf.eq_4 _ (fun tail h => ?_) (fun h => ?_) fun tail h => ?_
    · exact hroot rest (by rw [(List.cons.inj h).1])
    · obtain ⟨rfl, hrest⟩ := List.cons.inj h
      exact hhere (by rw [(List.append_eq_nil_iff.1 hrest).1])
    · obtain ⟨rfl, hrest⟩ := List.cons.inj h
      rcases List.append_eq_cons_iff.1 hrest with ⟨rfl, -⟩ | ⟨rest', rfl, -⟩
      · exact hhere rfl
      · exact hstep rest' rfl

end Lead

/-! ## Names -/

/-- The segments that name something. -/
def named (segments : List (List Char)) : List (List Char) := segments.filter (!isIdle ·)

/-- The component of a lead. -/
def leadComponents : List Char → List PathComponent
  | ['/'] => [.root]
  | ['.'] => [.here]
  | _ => []

theorem components_eq (p : Path) :
    p.components = leadComponents p.lead ++ (named p.segments).map componentOf := rfl

theorem named_append (segments more : List (List Char)) : named (segments ++ more) = named segments ++ named more :=
  List.filter_append _ _

theorem named_reverse (segments : List (List Char)) : named segments.reverse = (named segments).reverse :=
  List.filter_reverse

/-- Dropping what names nothing leaves the names. -/
theorem named_dropWhile (segments : List (List Char)) : named (segments.dropWhile isIdle) = named segments := by
  induction segments with
  | nil => rfl
  | cons s rest ih =>
    cases hs : isIdle s with
    | true =>
      rw [List.dropWhile_cons_of_pos hs, ih]
      simp [named, hs]
    | false => rw [List.dropWhile_cons_of_neg (by simp [hs])]

/-- The last name, and what stands before it. -/
theorem named_of_last {segments before : List (List Char)} {last : List Char}
    (h : segments.reverse.dropWhile isIdle = last :: before) :
    named segments = named (before.dropWhile isIdle).reverse ++ [last] ∧
      ∃ more, segments = (before.dropWhile isIdle).reverse ++ more := by
  have hlast : isIdle last = false := by
    have hhead := List.head_dropWhile_not isIdle (w := h ▸ List.cons_ne_nil last before)
    simpa [h] using hhead
  constructor
  · have hnames : (named segments).reverse = last :: named before := by
      rw [← named_reverse, ← named_dropWhile, h]
      simp [named, hlast]
    rw [named_reverse, named_dropWhile, ← List.reverse_cons, ← hnames, List.reverse_reverse]
  · obtain ⟨front, hfront⟩ := (List.dropWhile_suffix isIdle).trans
      ((List.suffix_cons last before).trans (h ▸ List.dropWhile_suffix isIdle))
    exact ⟨front.reverse, by rw [← List.reverse_append, hfront, List.reverse_reverse]⟩

theorem named_of_idle {segments : List (List Char)} (h : segments.reverse.dropWhile isIdle = []) :
    named segments = [] := by
  rw [← List.reverse_eq_nil_iff, ← named_reverse, ← named_dropWhile, h]
  rfl

/-! ## The last component -/

/-- The name at the end is that of the last component. -/
theorem fileName?_eq (p : Path) : p.fileName? = p.components.getLast?.bind PathComponent.name? := by
  rw [fileName?, components_eq]
  rcases hdrop : p.segments.reverse.dropWhile isIdle with - | ⟨last, before⟩
  · rw [named_of_idle hdrop, List.map_nil, List.append_nil]
    fun_cases leadComponents p.lead <;> rfl
  · rw [(named_of_last hdrop).1, List.map_append, List.map_singleton, ← List.append_assoc, List.getLast?_concat]
    simp only [componentOf, Option.bind_some]
    split <;> rfl

theorem exists_parent?_of_fileName? {p : Path} {name : String} (h : p.fileName? = some name) :
    ∃ q, p.parent? = some q := by
  rw [fileName?] at h
  rw [parent?]
  rcases hdrop : p.segments.reverse.dropWhile isIdle with - | ⟨last, before⟩
  · rw [hdrop] at h
    cases h
  · exact ⟨_, rfl⟩

/-! ## The parent -/

/-- A path is spelled by its lead and some of its first segments as it is by all of them. -/
theorem components_kept {p : Path} {kept more : List (List Char)} (h : p.segments = kept ++ more) :
    (⟨String.ofList (p.lead ++ Text.joined '/' kept)⟩ : Path).components =
      leadComponents p.lead ++ (named kept).map componentOf := by
  have hslash : ∀ s ∈ kept, '/' ∉ s := fun s hs =>
    Text.notMem_of_mem_pieces (h ▸ List.mem_append_left more hs : s ∈ p.segments)
  have htext : p.lead ++ Text.joined '/' (kept ++ more) = p.text.toList := by
    rw [← h, segments, Text.joined_pieces, lead_eq, leadOf_append_drop]
  have hlead : leadOf (p.lead ++ Text.joined '/' kept) = p.lead := by
    rcases eq_or_ne kept [] with rfl | hkept
    · rw [Text.joined, List.append_nil, lead_eq, leadOf_leadOf]
    rcases eq_or_ne more [] with rfl | hmore
    · rw [← List.append_nil kept, htext, lead_eq]
    rw [Text.joined_append hkept hmore, ← List.append_assoc] at htext
    have hne : p.lead ++ Text.joined '/' kept ≠ [] := by
      intro hnil
      rw [hnil, List.nil_append] at htext
      rw [lead_eq, ← htext] at hnil
      cases hnil
    have happend := leadOf_append hne fun _ => (List.head?_cons : (_ :: Text.joined '/' more).head? = some '/')
    rw [← happend, htext, lead_eq]
  rw [components_eq, segments, lead_eq]
  simp only [String.toList_ofList]
  rw [hlead, List.drop_left]
  rcases eq_or_ne kept [] with rfl | hkept
  · rfl
  · rw [Text.pieces_joined hkept hslash]

/-- **A parent has all components but the last one.** -/
theorem components_of_parent? {p q : Path} (h : p.parent? = some q) : ∃ c, p.components = q.components ++ [c] := by
  rw [parent?] at h
  rcases hdrop : p.segments.reverse.dropWhile isIdle with - | ⟨last, before⟩
  · rw [hdrop] at h
    obtain ⟨hlead, hq⟩ := Option.ite_none_right_eq_some.1 h
    refine ⟨.here, ?_⟩
    rw [components_eq, named_of_idle hdrop, hlead, ← Option.some.inj hq]
    rfl
  · rw [hdrop] at h
    obtain ⟨hnames, more, hkept⟩ := named_of_last hdrop
    refine ⟨componentOf last, ?_⟩
    rw [← Option.some.inj h, components_kept hkept, components_eq, hnames, List.map_append, List.append_assoc]
    rfl

/-- A path without a parent has no component, or the root only. -/
theorem dropLast_components_of_parent?_eq_none {p : Path} (h : p.parent? = none) : p.components.dropLast = [] := by
  rw [parent?] at h
  rcases hdrop : p.segments.reverse.dropWhile isIdle with - | ⟨last, before⟩
  · rw [components_eq, named_of_idle hdrop, List.map_nil, List.append_nil]
    fun_cases leadComponents p.lead <;> rfl
  · rw [hdrop] at h
    cases h

/-- The name of the directory is that of the last component but one. -/
theorem parentName?_eq (p : Path) :
    p.parentName? = p.components.dropLast.getLast?.bind PathComponent.name? := by
  rw [parentName?]
  cases h : p.parent? with
  | none => rw [dropLast_components_of_parent?_eq_none h]; rfl
  | some q =>
    obtain ⟨c, hc⟩ := components_of_parent? h
    rw [hc, List.dropLast_concat]
    exact fileName?_eq q

/-! ## A further step -/

section Step

variable {step : String} {text : List Char}

theorem leadOf_segment (h : IsSegment step.toList) : leadOf step.toList = [] := by
  refine leadOf.eq_4 _ (fun tail htext => ?_) h.2.1 fun tail htext => ?_
  · exact h.2.2 (htext ▸ List.mem_cons_self)
  · exact h.2.2 (htext ▸ List.mem_cons_of_mem _ List.mem_cons_self)

/-- Behind a slash, or at the start, a segment is one name more. -/
theorem named_pieces_append (h : IsSegment step.toList) (hend : text = [] ∨ text.getLast? = some '/') :
    named (Text.pieces '/' (text ++ step.toList)) = named (Text.pieces '/' text) ++ [step.toList] := by
  have hstep : named [step.toList] = [step.toList] := by simp [named, h.isIdle]
  rcases hend with rfl | hend
  · rw [List.nil_append, Text.pieces_of_notMem h.2.2, hstep]
    rfl
  · obtain ⟨front, rfl⟩ := List.getLast?_eq_some_iff.1 hend
    rw [List.append_assoc, List.singleton_append, Text.pieces_append_sep, Text.pieces_append_sep, named_append,
      named_append, Text.pieces_of_notMem h.2.2, hstep]
    simp [Text.pieces, named, isIdle]

/-- Behind a slash, or at the start, a segment is one component more. -/
theorem components_append (h : IsSegment step.toList) (hend : text = [] ∨ text.getLast? = some '/') :
    (⟨String.ofList (text ++ step.toList)⟩ : Path).components =
      (⟨String.ofList text⟩ : Path).components ++ [componentOf step.toList] := by
  have hlead : leadOf (text ++ step.toList) = leadOf text := by
    rcases hend with rfl | hend
    · rw [List.nil_append, leadOf_segment h]
      rfl
    · refine leadOf_append (fun hnil => ?_) fun hdot => ?_
      · rw [hnil] at hend
        cases hend
      · rw [hdot] at hend
        cases hend
  have hrest : text.drop (leadOf text).length = [] ∨ (text.drop (leadOf text).length).getLast? = some '/' := by
    rcases Nat.lt_or_ge (leadOf text).length text.length with hlt | hge
    · rcases hend with rfl | hend
      · cases hlt
      · exact .inr (by rw [List.getLast?_drop, if_neg (Nat.not_le.2 hlt), hend])
    · exact .inl (List.drop_eq_nil_of_le hge)
  simp only [components_eq, segments, lead_eq, String.toList_ofList]
  rw [hlead, List.drop_append_of_le_length (length_leadOf_le text), named_pieces_append h hrest, List.map_append,
    List.append_assoc]
  rfl

/-- A trailing slash does not count. -/
theorem components_append_slash (hne : text ≠ []) :
    (⟨String.ofList (text ++ ['/'])⟩ : Path).components = (⟨String.ofList text⟩ : Path).components := by
  have hlead : leadOf (text ++ ['/']) = leadOf text := leadOf_append hne fun _ => rfl
  simp only [components_eq, segments, lead_eq, String.toList_ofList]
  rw [hlead, List.drop_append_of_le_length (length_leadOf_le text), Text.pieces_append_sep, named_append]
  simp [Text.pieces, named, isIdle]

/-- **A step puts one component behind**, however the path is spelled. -/
theorem components_join (p : Path) (h : IsSegment step.toList) :
    (p.join step).components = p.components ++ [componentOf step.toList] := by
  have hrelative : ¬ (step.toList.head? == some '/') = true := by
    intro hslash
    exact h.2.2 (List.mem_of_mem_head? (beq_iff_eq.1 hslash))
  have hspelled : p = ⟨String.ofList p.text.toList⟩ := by rw [String.ofList_toList]
  have hdirect : p.text.toList = [] ∨ p.text.toList.getLast? = some '/' →
      (⟨p.text ++ step⟩ : Path).components = p.components ++ [componentOf step.toList] := by
    intro hend
    have hjoined : p.text ++ step = String.ofList (p.text.toList ++ step.toList) := String.toList_inj.1 (by simp)
    rw [hjoined, components_append h hend, ← hspelled]
  rw [join, if_neg hrelative]
  split
  · next hlast => exact hdirect (.inl (List.getLast?_eq_none_iff.1 hlast))
  · next hlast => exact hdirect (.inr hlast)
  · next hnone _ =>
    have hne : p.text.toList ≠ [] := fun hnil => hnone (List.getLast?_eq_none_iff.2 hnil)
    have hjoined : p.text ++ "/" ++ step = String.ofList (p.text.toList ++ ['/'] ++ step.toList) :=
      String.toList_inj.1 (by simp)
    rw [hjoined, components_append h (.inr List.getLast?_concat), components_append_slash hne, ← hspelled]

end Step

end Path

end DependencyEvidence
