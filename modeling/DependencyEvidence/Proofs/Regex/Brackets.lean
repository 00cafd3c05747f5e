import DependencyEvidence.Proofs.Regex.Escapes

/-!
# Bracketed classes

Bracketed classes are read alike under near flags: what is read has the same nesting, and differs at most in its
characters (`beside_bracket`).
-/

namespace DependencyEvidence.Regex

open Scan (Beside Closing Leaves)

variable {same : Prop} {f g : Flags} {t : List Char}

/-! ## Near classes -/

/-- Two classes with the same nesting, which are the same if they have to be. -/
structure NestedClass.Near (same : Prop) (a b : NestedClass) : Prop where
  depth : a.depth = b.depth
  eq : same → a = b

/-- Lists whose elements have to be the same are the same. -/
theorem eq_of_forall₂ {α : Type} {R : α → α → Prop} {l l' : List α} (hR : ∀ a b, R a b → same → a = b)
    (h : List.Forall₂ R l l') (hs : same) : l = l' :=
  List.forall₂_eq_eq_eq ▸ h.imp fun a b hab => hR a b hab hs

/-- The greatest depth is the same where all depths are. -/
theorem foldl_max_of_forall₂ {α : Type} {depth : α → Nat} {R : α → α → Prop} {l l' : List α}
    (hR : ∀ a b, R a b → depth a = depth b) (h : List.Forall₂ R l l') (d : Nat) :
    l.foldl (fun d a => max d (depth a)) d = l'.foldl (fun d a => max d (depth a)) d := by
  induction h generalizing d with
  | nil => rfl
  | cons hab _ ih => rw [List.foldl_cons, List.foldl_cons, hR _ _ hab, ih]

namespace NestedClass.Near

theorem refl (a : NestedClass) : a.Near same a := ⟨rfl, fun _ => rfl⟩

theorem union {l l' : List NestedClass} (h : List.Forall₂ (NestedClass.Near same) l l') :
    (NestedClass.union l).Near same (NestedClass.union l') := by
  refine ⟨?_, fun hs => congrArg NestedClass.union (eq_of_forall₂ (fun _ _ hab => hab.eq) h hs)⟩
  cases h with
  | nil => rfl
  | cons hab rest =>
    cases rest with
    | nil => exact hab.depth
    | cons hcd rest =>
      exact congrArg (· + 1) (foldl_max_of_forall₂ (fun _ _ h => h.depth) (.cons hab (.cons hcd rest)) 0)

end NestedClass.Near

/-! ## Near brackets -/

/-- Two open brackets with the same signs and operators and near parts. -/
structure Bracket.Near (same : Prop) (a b : Bracket) : Prop where
  negated : a.negated = b.negated
  left : Option.Rel (fun x y => x.1 = y.1 ∧ x.2.Near same y.2) a.left b.left
  parts : List.Forall₂ (NestedClass.Near same) a.parts b.parts

namespace Bracket.Near

variable {a b : Bracket}

theorem push (h : a.Near same b) {c d : NestedClass} (hcd : c.Near same d) : (a.push c).Near same (b.push d) :=
  ⟨h.negated, h.left, .cons hcd h.parts⟩

theorem joined (hfg : f.Near same g) (h : a.Near same b) : (a.joined f).Near same (b.joined g) := by
  have hright := NestedClass.Near.union (List.rel_reverse h.parts)
  obtain ⟨_, left, parts⟩ := a
  obtain ⟨_, left', parts'⟩ := b
  unfold Bracket.joined
  have hleft : Option.Rel (fun x y => x.1 = y.1 ∧ x.2.Near same y.2) left left' := h.left
  cases hleft with
  | none => exact hright
  | @some x y hxy =>
    obtain ⟨o, c⟩ := x
    obtain ⟨o', c'⟩ := y
    obtain ⟨heq, hc⟩ := hxy
    obtain rfl : o = o' := heq
    replace hc : c.Near same c' := hc
    refine ⟨?_, fun hs => ?_⟩
    · show max c.depth _ + 1 = max c'.depth _ + 1
      rw [hc.depth, hright.depth]
    · show o.apply f c _ = o.apply g c' _
      rw [hfg.eq hs, hc.eq hs, hright.eq hs]

theorem operate (hfg : f.Near same g) (h : a.Near same b) (o : ClassOperator) :
    (a.operate f o).Near same (b.operate g o) :=
  ⟨h.negated, .some ⟨rfl, joined hfg h⟩, .nil⟩

theorem close? (hfg : f.Near same g) (h : a.Near same b) :
    Option.Rel (NestedClass.Near same) (a.close? f) (b.close? g) := by
  have hinner := joined hfg h
  have hset := hfg.withSign? b.negated (hfg.withCases fun hs => congrArg NestedClass.set (hinner.eq hs))
  unfold Bracket.close?
  rw [h.negated]
  dsimp only
  rw [hinner.depth]
  generalize f.withSign? b.negated (f.withCases (a.joined f).set) = c at hset ⊢
  generalize g.withSign? b.negated (g.withCases (b.joined g).set) = d at hset ⊢
  cases hset with
  | none => exact .none
  | some hcd => exact .some ⟨rfl, fun hs => by rw [hcd hs]⟩

end Bracket.Near

/-! ## Opening and parts -/

section

variable {α : Type} {table : List (String × α)}

instance : Leaves (Scan.acceptOne table) := by
  induction table with
  | nil => exact .pure _
  | cons _ _ ih =>
    unfold Scan.acceptOne
    infer_instance

theorem beside_acceptOne (h : ∀ entry ∈ table, ')' ∉ entry.1.toList) :
    Beside Eq (Scan.acceptOne table) (Scan.acceptOne table) t := by
  induction table generalizing t with
  | nil => exact .pure rfl
  | cons entry more ih =>
    obtain ⟨hentry, hmore⟩ := List.forall_mem_cons.1 h
    refine (Beside.accept hentry).bind ?_
    rintro accepted _ t rfl
    exact Beside.ite (.pure rfl) (ih hmore)

end

instance (f : Flags) : Leaves (Bracket.opening f) := by
  unfold Bracket.opening
  infer_instance

theorem beside_opening (h : f.Near same g) : Beside (Bracket.Near same) (Bracket.opening f) (Bracket.opening g) t := by
  refine (beside_skipBlanks h).bind fun _ _ _ _ => (Beside.accept (by decide)).bind ?_
  rintro negated _ _ rfl
  refine (beside_skipBlanks h).bind fun _ _ _ _ => (beside_takeSpaced h (by decide)).bind ?_
  rintro hyphens _ t rfl
  have hopened : Bracket.Near same ⟨negated, none, hyphens.map NestedClass.single⟩
      ⟨negated, none, hyphens.map NestedClass.single⟩ :=
    ⟨rfl, .none, List.forall₂_same.2 fun _ _ => .refl _⟩
  let opened : Bracket := ⟨negated, none, hyphens.map NestedClass.single⟩
  let reader : Bool → Scan Bracket := fun v =>
    if (hyphens.isEmpty && v) = true then Scan.next >>= fun _ => pure (opened.push (.single ']')) else pure opened
  refine Beside.peek_test (c := ']') (p := reader) (q := reader) (by decide) fun v => ?_
  exact (Beside.next.bind fun _ _ _ _ => .pure (hopened.push (.refl _))).ite (.pure hopened)

instance : Leaves ClassOperator.accept? := inferInstanceAs (Leaves (Scan.acceptOne _))

instance (f : Flags) (spelled : Option (Bool × List (Char × Char))) : Leaves (spelledClass f spelled) := by
  cases spelled <;> (unfold spelledClass; infer_instance)

instance (f : Flags) : Leaves (asciiClass? f) := by
  unfold asciiClass?
  infer_instance

theorem beside_asciiClass (h : f.Near same g) :
    Beside (Option.Rel (NestedClass.Near same)) (asciiClass? f) (asciiClass? g) t := by
  refine (beside_acceptOne (by decide)).bind ?_
  rintro (_ | ⟨negated, intervals⟩) _ _ rfl
  · exact .pure .none
  · exact (beside_present (h.withSign? negated (h.withCases fun _ => rfl))).bind fun _ _ _ hset =>
      .pure (.some ⟨rfl, fun hs => by rw [hset hs]⟩)

/-! ## Elements and ranges -/

instance (f : Flags) (c : Char) : Leaves (elementCharacter f c) := by
  unfold elementCharacter
  infer_instance

instance (f : Flags) (e : Escape) : Leaves (escapedElement f e) := by
  cases e <;> (unfold escapedElement; infer_instance)

instance (f : Flags) : Leaves (escape f) := by
  unfold escape
  infer_instance

instance (f : Flags) : Leaves (element f) := by
  unfold element
  infer_instance

instance (f : Flags) : Leaves (elementOrRange f) := by
  unfold elementOrRange
  infer_instance

/-- Two elements: the same character, or classes that are the same if they have to be. -/
abbrev ElementNear (same : Prop) : Char ⊕ CharClass → Char ⊕ CharClass → Prop := Sum.LiftRel Eq fun a b => same → a = b

theorem beside_elementCharacter (h : f.Near same g) (c : Char) :
    Beside Eq (elementCharacter f c) (elementCharacter g c) t := by
  unfold elementCharacter
  rw [h.unicode]
  exact Beside.failure.ite (.pure rfl)

theorem beside_inl (h : f.Near same g) (c : Char) :
    Beside (ElementNear same) (elementCharacter f c >>= fun c => pure (.inl c))
      (elementCharacter g c >>= fun c => pure (.inl c)) t :=
  (beside_elementCharacter h c).bind fun _ _ _ hc => .pure (.inl hc)

/-- An escape that asks for the edge of a word is no element. -/
theorem escapedElement_edge (f : Flags) (t : List Char) : (escapeOf f 'b' >>= escapedElement f) t = none := by
  cases h : (escapeOf f 'b' >>= escapedElement f) t with
  | none => rfl
  | some x =>
    obtain ⟨e, u, he, hx⟩ := Scan.bind_eq_some.1 h
    obtain ⟨w, v, -, hw⟩ := Scan.bind_eq_some.1 (show (edge f >>= fun w => pure (f.wordEdge w)) t = _ from he)
    cases hw
    cases hx

theorem beside_escapedElement (h : f.Near same g) :
    Beside (ElementNear same) (escape f >>= escapedElement f) (escape g >>= escapedElement g) t := by
  suffices hstep : ∀ (c : Char) (t : List Char),
      Beside (ElementNear same) (escapeOf f c >>= escapedElement f) (escapeOf g c >>= escapedElement g) t by
    unfold escape
    rw [bind_assoc, bind_assoc]
    exact Beside.next.bind fun c _ t hc => hc ▸ hstep c t
  intro c t
  by_cases hc : c = 'b'
  · subst hc
    refine .fails (escapedElement_edge f t) fun s _ e u hu => ?_
    rw [escapedElement_edge] at hu
    cases hu
  · refine (beside_escapeOf h hc).bind fun a b t hab => ?_
    cases hab with
    | character c => exact beside_inl h c
    | «class» hset => exact .pure (.inr hset)
    | assertion a => exact .failure

theorem beside_element (h : f.Near same g) : Beside (ElementNear same) (element f) (element g) t := by
  refine (Beside.accept (by decide)).bind ?_
  rintro escaped _ t rfl
  refine Beside.ite (beside_escapedElement h) (Beside.next.bind ?_)
  rintro c _ t rfl
  exact beside_inl h c

/-- What stands first, if it is not a closing parenthesis, does not depend on what is behind. -/
theorem head?_append {s : List Char} (hs : Closing s) {c : Char} (hc : c ≠ ')') :
    (t ++ s).head? = some c ↔ t.head? = some c := by
  cases t with
  | cons d rest => rfl
  | nil => exact ⟨fun h => absurd (hs.1 c h) hc, fun h => nomatch h⟩

theorem pastMark_append {s : List Char} (hs : Closing s) : pastMark (t ++ s) = pastMark t ++ s := by
  unfold pastMark
  rw [(Beside.takeWhile_append isBlank_paren hs t).2]
  generalize t.dropWhile Unicode.isBlank = u
  split
  · next comment h =>
    cases u with
    | nil =>
      obtain rfl : s = '#' :: comment := h
      exact absurd (hs.1 '#' rfl) (by decide)
    | cons c rest =>
      cases h
      exact (Beside.takeWhile_append isBlank_paren hs rest).2
  · next hne =>
    split
    · next comment => exact absurd rfl (hne (comment ++ s))
    · rfl

/-- A character that is no blank and no mark is found behind both. -/
theorem afterHyphen_verbose (h : f.verbose = true) {c : Char} (hblank : Unicode.isBlank c = false) (hmark : c ≠ '#') :
    afterHyphen f t = some c ↔ (pastMark t).head? = some c := by
  have hunfold : afterHyphen f t = (pastMark t).head?.or t.head? := by
    unfold afterHyphen
    rw [h]
    rfl
  rw [hunfold]
  cases hpast : (pastMark t).head? with
  | some d => rfl
  | none =>
    refine ⟨fun hhead => ?_, fun h => nomatch h⟩
    obtain ⟨rest, rfl⟩ := List.head?_eq_some_iff.1 (show t.head? = some c from hhead)
    have hstays : pastMark (c :: rest) = c :: rest := by
      unfold pastMark
      rw [List.dropWhile_cons_of_neg (by simp [hblank])]
      split
      · next heq => exact absurd (List.cons.inj heq).1 hmark
      · rfl
    rw [hstays] at hpast
    cases hpast

theorem afterHyphen_append (h : f.Near same g) {s : List Char} (hs : Closing s) {c : Char}
    (hblank : Unicode.isBlank c = false) (hmark : c ≠ '#') (hc : c ≠ ')') :
    afterHyphen g (t ++ s) = some c ↔ afterHyphen f t = some c := by
  cases hv : g.verbose with
  | true =>
    rw [afterHyphen_verbose hv hblank hmark, afterHyphen_verbose (h.verbose.trans hv) hblank hmark, pastMark_append hs,
      head?_append hs hc]
  | false =>
    unfold afterHyphen
    rw [h.verbose, hv]
    exact head?_append hs hc

/-- Whether a hyphen makes a range does not depend on what is behind. -/
theorem goesOnToRange_append (h : f.Near same g) {s : List Char} (hs : Closing s) :
    goesOnToRange g (t ++ s) = goesOnToRange f t := by
  have hhyphen : ∀ rest, goesOnToRange g ('-' :: (rest ++ s)) = goesOnToRange f ('-' :: rest) := fun rest => by
    have hbracket := afterHyphen_append (t := rest) h hs (c := ']') (by decide +kernel) (by decide) (by decide)
    have hagain := afterHyphen_append (t := rest) h hs (c := '-') (by decide +kernel) (by decide) (by decide)
    simp only [goesOnToRange, bne, Bool.eq_iff_iff.2 (beq_iff_eq.trans (hbracket.trans beq_iff_eq.symm)),
      Bool.eq_iff_iff.2 (beq_iff_eq.trans (hagain.trans beq_iff_eq.symm))]
  have hother : ∀ (f : Flags) (u : List Char), u.head? ≠ some '-' → goesOnToRange f u = false := fun f u hu => by
    unfold goesOnToRange
    split
    · exact absurd rfl hu
    · rfl
  by_cases ht : t.head? = some '-'
  · obtain ⟨rest, rfl⟩ := List.head?_eq_some_iff.1 ht
    exact hhyphen rest
  · rw [hother f t ht, hother g _ (mt (head?_append hs (by decide)).1 ht)]

theorem beside_range (h : f.Near same g) {a b : Char ⊕ CharClass} (hab : ElementNear same a b) :
    Beside (NestedClass.Near same) (element f >>= fun last => Scan.present (range? a last))
      (element g >>= fun last => Scan.present (range? b last)) t := by
  refine (beside_element h).bind fun c d t hcd => beside_present ?_
  cases hab with
  | inr => exact .none
  | inl hlo =>
    cases hcd with
    | inr => exact .none
    | inl hhi =>
      subst hlo hhi
      unfold range?
      dsimp only
      split
      · exact .some (.refl _)
      · exact .none

theorem near_ofElement {a b : Char ⊕ CharClass} (h : ElementNear same a b) :
    (NestedClass.ofElement a).Near same (NestedClass.ofElement b) := by
  cases h with
  | inl h => exact h ▸ .refl _
  | inr h => exact ⟨rfl, fun hs => by rw [NestedClass.ofElement, h hs]; rfl⟩

theorem beside_elementOrRange (h : f.Near same g) :
    Beside (NestedClass.Near same) (elementOrRange f) (elementOrRange g) t := by
  refine (beside_element h).bind fun first first' t hfirst => (beside_skipBlanks h).bind fun _ _ t _ => ?_
  have hrange := fun t => (Beside.next (t := t)).bind fun _ _ _ _ => (beside_skipBlanks h).bind fun _ _ _ _ =>
    beside_range h hfirst
  let reader : Flags → Char ⊕ CharClass → Bool → Scan NestedClass := fun f first v =>
    if v = true then do
      let _ ← Scan.next
      skipBlanks f
      Scan.present (range? first (← element f))
    else pure (.ofElement first)
  have hread : Beside (NestedClass.Near same) (reader f first (goesOnToRange f t)) (reader g first' (goesOnToRange f t)) t :=
    (hrange t).ite (.pure (near_ofElement hfirst))
  refine hread.congr (fun s hs => ?_) fun s hs => ?_
  · show reader f first (goesOnToRange f (t ++ s)) _ = _
    rw [goesOnToRange_append (Flags.Near.refl f : f.Near same f) hs]
  · show reader g first' (goesOnToRange g (t ++ s)) _ = _
    rw [goesOnToRange_append h hs]

/-! ## Brackets -/

instance (f : Flags) (b : Bracket) (outer : List Bracket) (named : Option NestedClass) :
    Leaves (b.enter f outer named) := by
  cases named <;> (unfold Bracket.enter; infer_instance)

instance (f : Flags) (b : Bracket) (o : Option ClassOperator) : Leaves (b.extend f o) := by
  cases o <;> (unfold Bracket.extend; infer_instance)

instance (f : Flags) (s : Bracket × List Bracket) : Leaves (bracket.step f s) := by
  unfold bracket.step
  infer_instance

instance (f : Flags) : Leaves (bracket f) := by
  unfold bracket
  infer_instance

/-- Two lists of open brackets, the innermost ones apart. -/
abbrev BracketsNear (same : Prop) (s s' : Bracket × List Bracket) : Prop :=
  s.1.Near same s'.1 ∧ List.Forall₂ (Bracket.Near same) s.2 s'.2

section

variable {b b' : Bracket} {outer outer' : List Bracket}

theorem beside_enter (h : f.Near same g) (hb : b.Near same b') (houter : List.Forall₂ (Bracket.Near same) outer outer') :
    Beside (Scan.StepBeside (BracketsNear same) (NestedClass.Near same))
      (asciiClass? f >>= fun named => b.enter f outer named >>= fun s => pure (.again s))
      (asciiClass? g >>= fun named => b'.enter g outer' named >>= fun s => pure (.again s)) t := by
  refine (beside_asciiClass h).bind fun named named' t hnamed => ?_
  refine Beside.bind (R := BracketsNear same) ?_ fun _ _ _ hnext => .pure (.again hnext)
  cases hnamed with
  | none => exact (beside_opening h).bind fun _ _ _ hfirst => .pure ⟨hfirst, .cons hb houter⟩
  | some hcd => exact .pure ⟨hb.push hcd, houter⟩

theorem near_closing? (h : f.Near same g) (hb : b.Near same b')
    (houter : List.Forall₂ (Bracket.Near same) outer outer') :
    Option.Rel (Scan.StepBeside (BracketsNear same) (NestedClass.Near same)) (b.closing? f outer)
      (b'.closing? g outer') := by
  unfold Bracket.closing?
  have hclosed := hb.close? h
  generalize b.close? f = p at hclosed ⊢
  generalize b'.close? g = p' at hclosed ⊢
  cases hclosed with
  | none => exact .none
  | some hp =>
    cases houter with
    | nil => exact .some (.stop hp)
    | cons hnext houter => exact .some (.again ⟨hnext.push hp, houter⟩)

theorem beside_extend (h : f.Near same g) (hb : b.Near same b') (houter : List.Forall₂ (Bracket.Near same) outer outer') :
    Beside (Scan.StepBeside (BracketsNear same) (NestedClass.Near same))
      (ClassOperator.accept? >>= fun o => b.extend f o >>= fun b => pure (.again (b, outer)))
      (ClassOperator.accept? >>= fun o => b'.extend g o >>= fun b => pure (.again (b, outer'))) t := by
  refine (beside_acceptOne (by decide)).bind ?_
  rintro o _ t rfl
  refine Beside.bind (R := Bracket.Near same) ?_ fun _ _ _ hnext => .pure (.again ⟨hnext, houter⟩)
  cases o with
  | none => exact (beside_elementOrRange h).bind fun _ _ _ hp => .pure (hb.push hp)
  | some o => exact .pure (hb.operate h o)

end

/-- One part of the innermost bracket. -/
theorem beside_bracket_step (h : f.Near same g) {s s' : Bracket × List Bracket} (hs : BracketsNear same s s') :
    Beside (Scan.StepBeside (BracketsNear same) (NestedClass.Near same)) (bracket.step f s) (bracket.step g s') t := by
  refine (beside_skipBlanks h).bind fun _ _ _ _ => (Beside.accept (by decide)).bind ?_
  rintro opens _ _ rfl
  refine Beside.ite (beside_enter h hs.1 hs.2) ((Beside.accept (by decide)).bind ?_)
  rintro closes _ _ rfl
  exact Beside.ite (beside_present (near_closing? h hs.1 hs.2)) (beside_extend h hs.1 hs.2)

theorem beside_bracket (h : f.Near same g) : Beside (NestedClass.Near same) (bracket f) (bracket g) t :=
  (beside_opening h).bind fun _ _ _ hfirst =>
    .iterate (S := BracketsNear same) (fun _ _ _ hs => beside_bracket_step h hs) ⟨hfirst, .nil⟩

end DependencyEvidence.Regex
