import DependencyEvidence.Proofs.Regex.Flags

/-!
# Escapes

Escapes are read alike under near flags, and what they stand for differs at most in the characters of a class.

An escape that asks for the edge of a word is an exception. Behind it a brace may open the name of an edge or counts, and
what follows the brace decides; so the escape is refused where the text ends with the brace and blanks, but not if
something else than a name comes behind them (`edge_cases`).
-/

namespace DependencyEvidence.Regex

open Scan (Beside Closing Leaves)

variable {same : Prop} {f g : Flags} {t : List Char}

/-! ## Classes under flags -/

/-- Two escapes that differ at most in the characters of a class. -/
inductive Escape.Near (same : Prop) : Escape → Escape → Prop
  | character (c : Char) : Near same (.character c) (.character c)
  | class {a b : CharClass} (eq : same → a = b) : Near same (.class a) (.class b)
  | assertion (a : Assertion) : Near same (.assertion a) (.assertion a)

namespace Flags.Near

theorem withCases (h : f.Near same g) {a b : CharClass} (hab : same → a = b) : same → f.withCases a = g.withCases b :=
  fun hs => by rw [h.eq hs, hab hs]

theorem withSign? (h : f.Near same g) (negated : Bool) {a b : CharClass} (hab : same → a = b) :
    Option.Rel (fun a b => same → a = b) (f.withSign? negated a) (g.withSign? negated b) := by
  unfold Flags.withSign?
  rw [h.unicode]
  split
  · exact .some hab
  split
  · exact .some fun hs => by rw [hab hs]
  · exact .none

theorem property? (h : f.Near same g) (negated : Bool) (name : List Char) :
    Option.Rel (fun a b => same → a = b) (f.property? negated name) (g.property? negated name) := by
  unfold Flags.property?
  rw [h.unicode]
  cases g.unicode with
  | false => exact .none
  | true =>
    cases propertySet? name with
    | none => exact .none
    | some x => exact h.withSign? _ (h.withCases fun _ => rfl)

end Flags.Near

/-! ## Values that are there -/

theorem beside_present {α β : Type} {R : α → β → Prop} {a : Option α} {b : Option β} (h : Option.Rel R a b) :
    Beside R (Scan.present a) (Scan.present b) t := by
  cases h with
  | some h => exact .pure h
  | none => exact .failure

instance {α : Type} (o : Option α) : Leaves (Scan.present o) := by
  cases o <;> (unfold Scan.present; infer_instance)

/-! ## Characters by number -/

instance (digits : List Char) : Leaves (charOfCode digits) := by
  unfold charOfCode
  split <;> infer_instance

instance (f : Flags) : Leaves (bracedCode f) := by
  unfold bracedCode
  infer_instance

instance (f : Flags) (width : Nat) : Leaves (fixedCode f width) := by
  unfold fixedCode
  infer_instance

instance (f : Flags) (width : Nat) : Leaves (code f width) := by
  unfold code
  infer_instance

theorem beside_charOfCode (digits : List Char) : Beside Eq (charOfCode digits) (charOfCode digits) t := by
  unfold charOfCode
  split
  · exact .pure rfl
  · exact .failure

theorem beside_bracedCode (h : f.Near same g) : Beside Eq (bracedCode f) (bracedCode g) t := by
  refine (beside_skipBlanks h).bind fun _ _ _ _ => (beside_takeSpaced h (by decide)).bind ?_
  rintro digits _ _ rfl
  exact (Beside.character _).bind fun _ _ _ _ => beside_charOfCode digits

theorem beside_fixedCode (h : f.Near same g) (width : Nat) : Beside Eq (fixedCode f width) (fixedCode g width) t := by
  refine (Beside.satisfy _).bind ?_
  rintro first _ _ rfl
  have hmore : ∀ (i : Nat) t, Beside Eq (skipBlanks f >>= fun _ => Scan.satisfy (Text.isDigitOf 16))
      (skipBlanks g >>= fun _ => Scan.satisfy (Text.isDigitOf 16)) t :=
    fun _ _ => (beside_skipBlanks h).bind fun _ _ _ _ => .satisfy _
  refine (Beside.mapM hmore _).bind ?_
  intro more more' _ heq
  obtain rfl : more = more' := List.forall₂_eq_eq_eq ▸ heq
  refine (beside_charOfCode _).bind ?_
  rintro c _ _ rfl
  rw [h.unicode]
  exact Beside.failure.ite (.pure rfl)

theorem beside_code (h : f.Near same g) (width : Nat) : Beside Eq (code f width) (code g width) t := by
  refine (beside_skipBlanks h).bind fun _ _ _ _ => (Beside.accept (by decide)).bind ?_
  rintro braced _ _ rfl
  exact (beside_bracedCode h).ite (beside_fixedCode h width)

/-! ## Word edges -/

instance (f : Flags) : Leaves (namedEdge f) := by
  unfold namedEdge
  infer_instance

theorem beside_namedEdge (h : f.Near same g) : Beside Eq (namedEdge f) (namedEdge g) t := by
  refine (beside_takeSpaced h (by decide)).bind ?_
  rintro name _ _ rfl
  exact (Beside.character _).bind fun _ _ _ _ => beside_present (by cases edgeNames.lookup _ <;> constructor; rfl)

/-- Behind an opening brace, blanks and a character decide. -/
theorem edge_brace {rest u : List Char} {c : Char} (hskip : skipBlanks f rest = some ((), c :: u)) :
    edge f ('\x7b' :: rest) =
      if isEdgeCharacter c then namedEdge f (c :: u) else some (.boundary, '\x7b' :: rest) := by
  unfold edge
  simp only [hskip]
  rfl

theorem edge_brace_nil {rest : List Char} (hskip : skipBlanks f rest = some ((), [])) :
    edge f ('\x7b' :: rest) = none := by
  unfold edge
  simp only [hskip]
  rfl

theorem edge_of_ne (ht : t.head? ≠ some '\x7b') : edge f t = some (.boundary, t) := by
  unfold edge
  split
  · exact absurd rfl ht
  · rfl

instance (f : Flags) : Leaves (edge f) where
  suffix {t e u} h := by
    by_cases ht : t.head? = some '\x7b'
    · obtain ⟨rest, rfl⟩ := List.head?_eq_some_iff.1 ht
      cases hskip : skipBlanks f rest with
      | none => cases hskip
      | some x =>
        obtain ⟨_, v⟩ := x
        cases v with
        | nil => rw [edge_brace_nil hskip] at h; cases h
        | cons c v =>
          rw [edge_brace hskip] at h
          split at h
          · exact ((Leaves.suffix h).trans (Leaves.suffix hskip)).trans (List.suffix_cons _ _)
          · cases h
            exact List.suffix_rfl
    · rw [edge_of_ne ht] at h
      cases h
      exact List.suffix_rfl

/-- The edge of a word is read alike, unless the text ends with a brace and blanks. Then it is refused, but with something
behind it the brace is left alone. -/
theorem edge_cases (h : f.Near same g) :
    Beside Eq (edge f) (edge g) t ∨
      ∃ rest, t = '\x7b' :: rest ∧ edge f t = none ∧
        ∀ s, Closing s → skipBlanks g (rest ++ s) = some ((), s) ∧
          ∀ e u, edge g (t ++ s) = some (e, u) → u = t ++ s := by
  by_cases ht : t.head? = some '\x7b'
  · obtain ⟨rest, rfl⟩ := List.head?_eq_some_iff.1 ht
    cases beside_skipBlanks (t := rest) h with
    | @reads _ u _ first _ second =>
      cases u with
      | nil =>
        refine .inr ⟨rest, rfl, edge_brace_nil (Scan.alone first), fun s hs => ⟨second s hs, fun e u hu => ?_⟩⟩
        have hskip := second s hs
        cases s with
        | nil =>
          rw [List.cons_append, edge_brace_nil hskip] at hu
          cases hu
        | cons d more =>
          obtain rfl : d = ')' := hs.1 d rfl
          rw [List.cons_append, edge_brace hskip, if_neg (by decide)] at hu
          cases hu
          rfl
      | cons c u =>
        refine .inl ?_
        have hfirst := fun s hs => edge_brace (f := f) (first s hs)
        have hsecond := fun s hs => edge_brace (f := g) (second s hs)
        by_cases hc : isEdgeCharacter c
        · simp only [if_pos hc] at hfirst hsecond
          exact (beside_namedEdge (t := c :: u) h).transfer (fun hnil => by cases hnil) hfirst hsecond
        · simp only [if_neg hc] at hfirst hsecond
          exact .reads (u := '\x7b' :: rest) hfirst rfl hsecond
    | comment _ first _ second =>
      refine .inl (.fails (edge_brace_nil (Scan.alone_comment first)) fun s hs e u hu => ?_)
      rw [List.cons_append, edge_brace_nil (second s hs)] at hu
      cases hu
    | fails first => exact absurd first (by simp [skipBlanks])
  · have hread : ∀ (f : Flags) s, Closing s → edge f (t ++ s) = some (.boundary, t ++ s) := by
      refine fun f s hs => edge_of_ne ?_
      cases t with
      | cons c rest => exact ht
      | nil => exact fun hbrace => absurd (hs.1 _ hbrace) (by decide)
    exact .inl (.reads (hread f) rfl (hread g))

/-! ## Properties and shorthands -/

instance (f : Flags) : Leaves (propertyName f) := by
  unfold propertyName
  infer_instance

instance (f : Flags) (negated : Bool) : Leaves (property f negated) := by
  unfold property
  infer_instance

instance (f : Flags) (letter : Char) : Leaves (shorthand f letter) := by
  unfold shorthand
  infer_instance

theorem beside_propertyName (h : f.Near same g) : Beside Eq (propertyName f) (propertyName g) t := by
  refine (Beside.accept (by decide)).bind ?_
  rintro braced _ _ rfl
  refine Beside.ite ?_ ?_
  · exact (beside_skipBlanks h).bind fun _ _ _ _ => (upTo_takeSpaced h _).character _ fun _ _ => .pure rfl
  · refine (Beside.satisfy _).bind ?_
    rintro c _ _ rfl
    exact .pure rfl

theorem beside_property (h : f.Near same g) (negated : Bool) :
    Beside (fun a b => same → a = b) (property f negated) (property g negated) t := by
  refine (beside_skipBlanks h).bind fun _ _ _ _ => (beside_propertyName h).bind ?_
  rintro name _ _ rfl
  exact beside_present (h.property? negated name)

theorem beside_shorthand (h : f.Near same g) (letter : Char) :
    Beside (fun a b => same → a = b) (shorthand f letter) (shorthand g letter) t := by
  unfold shorthand
  rw [h.unicode]
  exact beside_present (h.withSign? _ fun _ => rfl)

/-! ## Escapes -/

instance (f : Flags) (c : Char) : Leaves (escapeOf f c) := by
  unfold escapeOf
  split <;> infer_instance

theorem near_wordEdge (h : f.Near same g) (e : WordEdge) : (f.wordEdge e).Near same (g.wordEdge e) := by
  rw [Flags.wordEdge, Flags.wordEdge, h.unicode]
  exact .assertion _

/-- All escapes but the edge of a word are read alike. -/
theorem beside_escapeOf (h : f.Near same g) {c : Char} (hc : c ≠ 'b') :
    Beside (Escape.Near same) (escapeOf f c) (escapeOf g c) t := by
  have hcharacter : ∀ width, Beside (Escape.Near same) (code f width >>= fun c => pure (.character c))
      (code g width >>= fun c => pure (.character c)) t := fun width =>
    (beside_code h width).bind fun c _ _ hc => hc ▸ .pure (.character c)
  have hclass : ∀ p q : Scan CharClass, [Leaves q] → Beside (fun a b => same → a = b) p q t →
      Beside (Escape.Near same) (p >>= fun set => pure (.class set)) (q >>= fun set => pure (.class set)) t :=
    fun _ _ _ h => h.bind fun _ _ _ hab => .pure (.class hab)
  unfold escapeOf
  split
  case h_1 => exact hcharacter 2
  case h_2 => exact hcharacter 4
  case h_3 => exact hcharacter 8
  case h_4 => exact hclass _ _ (beside_property h false)
  case h_5 => exact hclass _ _ (beside_property h true)
  case h_20 => exact absurd rfl hc
  case h_6 | h_7 | h_8 | h_9 | h_10 | h_11 => exact hclass _ _ (beside_shorthand h _)
  case h_12 | h_13 | h_14 | h_15 | h_16 | h_17 => exact .pure (.character _)
  case h_18 | h_19 => exact .pure (.assertion _)
  case h_21 | h_22 | h_23 => exact .pure (near_wordEdge h _)
  case h_24 => exact (Beside.pure (.character _)).ite .failure

end DependencyEvidence.Regex
