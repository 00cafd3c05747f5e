import DependencyEvidence.Proofs.Regex.Beside
import DependencyEvidence.Regex.Reader
import Mathlib.Data.List.Forall2

/-!
# Flags, blanks and counts

Flags that differ in ignoring case only are near (`Flags.Near`), and changes keep them near. Blanks, comments and counts
are read alike under near flags.
-/

namespace DependencyEvidence.Regex

open Scan (Beside Closing Leaves)

/-! ## Near flags -/

/-- Flags that differ at most in ignoring case, and not even in this if they have to be the same. -/
structure Flags.Near (same : Prop) (f g : Flags) : Prop where
  multiLine : f.multiLine = g.multiLine
  dotAll : f.dotAll = g.dotAll
  unicode : f.unicode = g.unicode
  crlf : f.crlf = g.crlf
  verbose : f.verbose = g.verbose
  lazily : f.lazily = g.lazily
  eq : same → f = g

namespace Flags.Near

variable {same : Prop} {f g : Flags}

theorem refl (f : Flags) : f.Near same f := ⟨rfl, rfl, rfl, rfl, rfl, rfl, fun _ => rfl⟩

theorem symm (h : f.Near same g) : g.Near same f :=
  ⟨h.multiLine.symm, h.dotAll.symm, h.unicode.symm, h.crlf.symm, h.verbose.symm, h.lazily.symm, fun hs => (h.eq hs).symm⟩

theorem set (h : f.Near same g) (c : Char) (value : Bool) : (f.set c value).Near same (g.set c value) := by
  unfold Flags.set
  split <;> constructor
  all_goals first
    | exact fun hs => by rw [h.eq hs]
    | exact h.multiLine
    | exact h.dotAll
    | exact h.unicode
    | exact h.crlf
    | exact h.verbose
    | exact h.lazily
    | rfl

theorem foldl_set (h : f.Near same g) (value : Bool) (letters : List Char) :
    (letters.foldl (fun f c => f.set c value) f).Near same (letters.foldl (fun f c => f.set c value) g) := by
  induction letters generalizing f g with
  | nil => exact h
  | cons c rest ih => exact ih (h.set c value)

theorem change? (h : f.Near same g) (letters : List Char) :
    Option.Rel (Flags.Near same) (f.change? letters) (g.change? letters) := by
  unfold Flags.change?
  split
  · exact .some ((h.foldl_set true _).foldl_set false _)
  · exact .none

end Flags.Near

/-! ## Blanks and comments -/

theorem afterComment_of_not_mem {s : List Char} (h : '\n' ∉ s) : afterComment s = [] := by
  induction s with
  | nil => rfl
  | cons c rest ih =>
    obtain ⟨hc, hrest⟩ := not_or.1 (List.mem_cons.not.1 h)
    rw [afterComment, if_neg (Ne.symm hc), ih hrest]

theorem afterBlanks_closing {s : List Char} (hs : Closing s) : afterBlanks s = s := by
  cases s with
  | nil => rfl
  | cons c rest =>
    obtain rfl : c = ')' := hs.1 c rfl
    have hblank : Unicode.isBlank ')' = false := by decide +kernel
    rw [afterBlanks, hblank]
    rfl

/-- What is behind a text is left, unless the text ends in a comment. -/
theorem afterBlanks_append (t : List Char) :
    ((∀ s, Closing s → afterBlanks (t ++ s) = afterBlanks t ++ s) ∨
      t ≠ [] ∧ afterBlanks t = [] ∧ ∀ s, Closing s → afterBlanks (t ++ s) = []) ∧
    ((∀ s, Closing s → afterComment (t ++ s) = afterComment t ++ s) ∨
      afterComment t = [] ∧ ∀ s, Closing s → afterComment (t ++ s) = []) := by
  induction t with
  | nil => exact ⟨.inl fun s hs => afterBlanks_closing hs, .inr ⟨rfl, fun s hs => afterComment_of_not_mem hs.2⟩⟩
  | cons c rest ih =>
    obtain ⟨hblanks, hcomment⟩ := ih
    simp only [List.cons_append, afterBlanks, afterComment]
    constructor
    · split
      · exact hblanks.imp_right fun ⟨_, h⟩ => ⟨List.cons_ne_nil _ _, h⟩
      split
      · exact hcomment.imp_right fun h => ⟨List.cons_ne_nil _ _, h⟩
      · exact .inl fun _ _ => rfl
    · split
      · exact hblanks.imp_right And.right
      · exact hcomment

theorem leaves_afterBlanks (t : List Char) : afterBlanks t <:+ t ∧ afterComment t <:+ t := by
  induction t with
  | nil => exact ⟨List.suffix_rfl, List.suffix_rfl⟩
  | cons c rest ih =>
    obtain ⟨hblanks, hcomment⟩ := ih
    simp only [afterBlanks, afterComment]
    constructor
    · split
      · exact hblanks.trans (List.suffix_cons _ _)
      split
      · exact hcomment.trans (List.suffix_cons _ _)
      · exact List.suffix_rfl
    · split
      · exact hblanks.trans (List.suffix_cons _ _)
      · exact hcomment.trans (List.suffix_cons _ _)

instance (f : Flags) : Leaves (skipBlanks f) where
  suffix {t _ u} h := by
    cases h
    split
    · exact (leaves_afterBlanks t).1
    · exact List.suffix_rfl

instance (f : Flags) (test : Char → Bool) (taken : List Char) : Leaves (spacedStep f test taken) :=
  @Leaves.bind _ _ _ _ _ fun next => by split <;> infer_instance

instance (f : Flags) (test : Char → Bool) : Leaves (takeSpaced f test) := by
  unfold takeSpaced
  infer_instance

instance (f : Flags) : Leaves (count f) := by
  unfold count
  infer_instance

instance (f : Flags) (least : Nat) : Leaves (bound f least) := by
  unfold bound
  infer_instance

instance (f : Flags) : Leaves (counts f) := by
  unfold counts
  infer_instance

section

variable {same : Prop} {f g : Flags} {t : List Char}

theorem skipBlanks_eq (h : f.verbose = g.verbose) : skipBlanks f = skipBlanks g := by
  unfold skipBlanks
  rw [h]

theorem beside_skipBlanks (h : f.Near same g) : Beside Eq (skipBlanks f) (skipBlanks g) t := by
  rw [skipBlanks_eq h.verbose]
  cases hv : g.verbose with
  | false =>
    have hread : ∀ s, Closing s → skipBlanks g (t ++ s) = some ((), t ++ s) := fun s _ => by rw [skipBlanks, hv]; rfl
    exact .reads hread rfl hread
  | true =>
    have hskip : ∀ u, skipBlanks g u = some ((), afterBlanks u) := fun u => by rw [skipBlanks, hv]; rfl
    rcases (afterBlanks_append t).1 with hleft | ⟨hne, -, hnone⟩
    · have hread : ∀ s, Closing s → skipBlanks g (t ++ s) = some ((), afterBlanks t ++ s) := fun s hs => by
        rw [hskip, hleft s hs]
      exact .reads hread rfl hread
    · have hread : ∀ s, Closing s → skipBlanks g (t ++ s) = some ((), []) := fun s hs => by rw [hskip, hnone s hs]
      exact .comment hne hread rfl hread

/-! ## Spaced characters -/

/-- Both take a character that passes the test. -/
theorem beside_spacedStep_cons (h : f.Near same g) (test : Char → Bool) (taken : List Char) (c : Char)
    (rest : List Char) :
    Beside (Scan.StepBeside Eq Eq) (spacedStep f test taken) (spacedStep g test taken) (c :: rest) := by
  have hagain : Beside (Scan.StepBeside Eq Eq)
      (Scan.next >>= fun _ => skipBlanks f >>= fun _ => pure (.again (c :: taken) : Scan.Step (List Char) (List Char)))
      (Scan.next >>= fun _ => skipBlanks g >>= fun _ => pure (.again (c :: taken))) (c :: rest) :=
    Beside.next.bind fun _ _ _ _ => (beside_skipBlanks h).bind fun _ _ _ _ => .pure (.again rfl)
  exact (hagain.ite (c := test c) (.pure (.stop rfl))).congr (fun _ _ => rfl) fun _ _ => rfl

theorem beside_takeSpaced (h : f.Near same g) {test : Char → Bool} (htest : test ')' = false) :
    Beside Eq (takeSpaced f test) (takeSpaced g test) t := by
  refine .iterate (S := Eq) ?_ rfl
  rintro taken _ t rfl
  cases t with
  | cons c rest => exact beside_spacedStep_cons h test taken c rest
  | nil =>
    have hread : ∀ (f : Flags) s, Closing s →
        spacedStep f test taken ([] ++ s) = some (.stop taken.reverse, [] ++ s) := by
      intro f s hs
      cases s with
      | nil => rfl
      | cons c rest =>
        obtain rfl : c = ')' := hs.1 c rfl
        show (if test ')' then _ else _ : Scan _) _ = _
        rw [htest]
        rfl
    exact .reads (hread f) (.stop rfl) (hread g)

/-! ## Characters up to a certain one -/

theorem iterate_spacedStep_nil (test : Char → Bool) (taken : List Char) :
    Scan.iterate (spacedStep f test) taken [] = some (taken.reverse, []) := by
  rw [Scan.iterate]
  rfl

theorem iterate_spacedStep_cons {test : Char → Bool} {c : Char} (hc : test c = true) {rest u : List Char}
    (taken : List Char) (h : skipBlanks f rest = some ((), u)) :
    Scan.iterate (spacedStep f test) taken (c :: rest) = Scan.iterate (spacedStep f test) (c :: taken) u := by
  have hstep : spacedStep f test taken (c :: rest) = some (.again (c :: taken), u) := by
    show (if test c then _ else _ : Scan _) (c :: rest) = _
    rw [hc, if_pos rfl]
    show (skipBlanks f >>= fun _ => pure (.again (c :: taken)) : Scan (Scan.Step (List Char) (List Char))) rest = _
    rw [Scan.bind_of_some h]
    rfl
  exact Scan.iterate_of_again hstep (Nat.lt_succ_of_le (Leaves.suffix h).length_le)

theorem iterate_spacedStep_stop {test : Char → Bool} {c : Char} (hc : test c = false) (taken rest : List Char) :
    Scan.iterate (spacedStep f test) taken (c :: rest) = some (taken.reverse, c :: rest) := by
  have hstep : spacedStep f test taken (c :: rest) = some (.stop taken.reverse, c :: rest) := by
    show (if test c then _ else _ : Scan _) (c :: rest) = _
    rw [hc]
    rfl
  rw [Scan.iterate, hstep]

/-- Taking all spaced characters up to a certain one. -/
theorem upTo_takeSpaced (h : f.Near same g) (test : Char → Bool) :
    Scan.UpTo (takeSpaced f test) (takeSpaced g test) t := by
  suffices hgo : ∀ taken,
      Scan.UpTo (Scan.iterate (spacedStep f test) taken) (Scan.iterate (spacedStep g test) taken) t from
    hgo []
  intro taken
  induction hn : t.length using Nat.strongRecOn generalizing taken t with
  | _ n ih =>
    subst hn
    cases t with
    | nil => exact .ends (iterate_spacedStep_nil test taken) fun s _ b u hu => Leaves.suffix hu
    | cons c rest =>
      cases hc : test c with
      | false =>
        exact .reads (List.cons_ne_nil c rest) (fun s _ => iterate_spacedStep_stop hc taken (rest ++ s)) fun s _ =>
          iterate_spacedStep_stop hc taken (rest ++ s)
      | true =>
        cases beside_skipBlanks (t := rest) h with
        | @reads _ t' _ first _ second =>
          have hp := fun s hs => iterate_spacedStep_cons hc taken (first s hs)
          have hq := fun s hs => iterate_spacedStep_cons hc taken (second s hs)
          have hlt : t'.length < (c :: rest).length :=
            Nat.lt_succ_of_le (Leaves.suffix (Scan.alone first)).length_le
          cases ih t'.length hlt (c :: taken) rfl with
          | reads nonempty first' second' =>
            exact .reads nonempty (fun s hs => (hp s hs).trans (first' s hs)) fun s hs => (hq s hs).trans (second' s hs)
          | ends first' second' =>
            have hp := iterate_spacedStep_cons hc taken (Scan.alone first)
            exact .ends (hp.trans first') fun s hs b u hu => second' s hs b u ((hq s hs).symm.trans hu)
        | comment _ first _ second =>
          have hp := iterate_spacedStep_cons hc taken (Scan.alone_comment first)
          refine .ends (hp.trans (iterate_spacedStep_nil test _)) fun s hs b u hu => ?_
          rw [List.cons_append, iterate_spacedStep_cons hc taken (second s hs), iterate_spacedStep_nil] at hu
          cases hu
          exact List.nil_suffix
        | fails first => exact absurd first (by simp [skipBlanks])

/-! ## Counts -/

theorem isBlank_paren : Unicode.isBlank ')' = false := by decide +kernel

theorem beside_count (h : f.Near same g) : Beside Eq (count f) (count g) t := by
  refine (Beside.skipWhile isBlank_paren).bind fun _ _ _ _ => (beside_takeSpaced h (by decide)).bind ?_
  rintro digits _ _ rfl
  exact (Beside.skipWhile isBlank_paren).bind fun _ _ _ _ => Beside.failure.ite (.pure rfl)

/-- A bound is read alike, and it is not below what is needed. -/
theorem beside_bound (h : f.Near same g) (least : Nat) :
    Beside (fun a b => a = b ∧ ∀ m ∈ a, least ≤ m) (bound f least) (bound g least) t := by
  refine (Beside.accept (by decide)).bind ?_
  rintro comma _ _ rfl
  refine Beside.ite ?_ (.pure ⟨rfl, fun m hm => Nat.le_of_eq (Option.some.inj hm)⟩)
  refine (beside_skipBlanks h).bind fun _ _ _ _ => .peek_ite (by decide) (.pure ⟨rfl, by simp⟩) ?_
  refine (beside_count h).bind ?_
  rintro most _ _ rfl
  by_cases hlt : most < least
  · rw [if_pos hlt]
    exact .failure
  · rw [if_neg hlt]
    exact .pure ⟨rfl, fun m hm => Option.some.inj hm ▸ Nat.not_lt.1 hlt⟩

/-- Counts are read alike, and a bound is not below what is needed. -/
theorem beside_counts (h : f.Near same g) :
    Beside (fun a b => a = b ∧ ∀ m ∈ a.2.1, a.1 ≤ m) (counts f) (counts g) t := by
  refine (beside_skipBlanks h).bind fun _ _ _ _ => (beside_count h).bind ?_
  rintro least _ _ rfl
  refine (beside_bound h least).bind ?_
  rintro most _ _ ⟨rfl, hmost⟩
  refine (Beside.character _).bind fun _ _ _ _ => (beside_skipBlanks h).bind fun _ _ _ _ => ?_
  refine (Beside.accept (by decide)).bind ?_
  rintro marked _ _ rfl
  exact .pure ⟨rfl, hmost⟩

end

end DependencyEvidence.Regex
