import DependencyEvidence.Proofs.Text.Scan

/-!
# Scanners in front of a closing parenthesis

What two scanners make of a text with something behind it that a closing parenthesis opens (`Beside`). There are three
cases. Both read the same and leave the same, and behind it what was added; or both end in a comment, which takes in what
was added; or the first fails where nothing is added, and then the second fails as well or reads into what was added.

`Beside` is kept by the ways in which scanners are built: one after another (`Beside.bind`), again and again
(`Beside.iterate`), and by looking ahead for anything but a closing parenthesis.
-/

namespace DependencyEvidence

namespace Scan

variable {α β σ ρ : Type}

/-! ## With something behind -/

/-- What is added behind a text: nothing, or a line that a closing parenthesis opens. -/
def Closing (s : List Char) : Prop := (∀ c ∈ s.head?, c = ')') ∧ '\n' ∉ s

theorem closing_nil : Closing [] := ⟨by simp, List.not_mem_nil⟩

/-- What is read with anything behind is read with nothing behind. -/
theorem alone {p : Scan α} {t u : List Char} {a : α} (h : ∀ s, Closing s → p (t ++ s) = some (a, u ++ s)) :
    p t = some (a, u) := by
  simpa using h [] closing_nil

theorem alone_comment {p : Scan α} {t : List Char} {a : α} (h : ∀ s, Closing s → p (t ++ s) = some (a, [])) :
    p t = some (a, []) := by
  simpa using h [] closing_nil

/-- Two scanners of a text with something behind it. -/
inductive Beside (R : α → β → Prop) (p : Scan α) (q : Scan β) (t : List Char) : Prop
  /-- Both read the same. -/
  | reads {a : α} {u : List Char} {b : β} (first : ∀ s, Closing s → p (t ++ s) = some (a, u ++ s)) (related : R a b)
    (second : ∀ s, Closing s → q (t ++ s) = some (b, u ++ s))
  /-- Both end in a comment. -/
  | comment {a : α} {b : β} (nonempty : t ≠ []) (first : ∀ s, Closing s → p (t ++ s) = some (a, [])) (related : R a b)
    (second : ∀ s, Closing s → q (t ++ s) = some (b, []))
  /-- The first fails where nothing is behind, and the second fails or reads into what is behind. -/
  | fails (first : p t = none)
    (second : ∀ s, Closing s → ∀ b u, q (t ++ s) = some (b, u) → u <:+ s ∧ u.length < s.length)

/-- What two repeated steps say. -/
inductive StepBeside {σ τ : Type} (S : σ → τ → Prop) (R : α → β → Prop) : Step σ α → Step τ β → Prop
  | again {a : σ} {b : τ} (related : S a b) : StepBeside S R (.again a) (.again b)
  | stop {a : α} {b : β} (related : R a b) : StepBeside S R (.stop a) (.stop b)

namespace Beside

variable {γ δ : Type} {R : α → β → Prop} {R' : γ → δ → Prop} {p : Scan α} {q : Scan β} {t : List Char}

theorem pure {a : α} {b : β} (h : R a b) : Beside R (Pure.pure a) (Pure.pure b) t :=
  .reads (fun _ _ => rfl) h fun _ _ => rfl

theorem failure : Beside R (Alternative.failure : Scan α) (Alternative.failure : Scan β) t :=
  .fails rfl fun _ _ _ _ h => nomatch h

/-- At the end of a text nothing can go into a comment, and nothing is left. -/
theorem at_nil [hq : Leaves q] (h : Beside R p q []) :
    (∃ a b, p [] = some (a, []) ∧ R a b ∧ q [] = some (b, [])) ∨ (p [] = none ∧ q [] = none) := by
  cases h with
  | reads first related second =>
    have hsecond := second [] closing_nil
    obtain rfl := List.eq_nil_of_suffix_nil (by simpa using hq.suffix hsecond)
    exact .inl ⟨_, _, alone first, related, hsecond⟩
  | comment nonempty => exact absurd rfl nonempty
  | fails first second =>
    refine .inr ⟨first, ?_⟩
    cases h : q [] with
    | none => rfl
    | some x => exact absurd (second [] closing_nil _ _ h).2 (Nat.not_lt_zero _)

/-- What two scanners do at one text, two others may do at another one. -/
theorem transfer {p' : Scan α} {q' : Scan β} {v : List Char} (h : Beside R p q v) (ht : t = [] → v = [])
    (hp : ∀ s, Closing s → p' (t ++ s) = p (v ++ s)) (hq : ∀ s, Closing s → q' (t ++ s) = q (v ++ s)) :
    Beside R p' q' t := by
  cases h with
  | reads first related second =>
    exact .reads (fun s hs => (hp s hs).trans (first s hs)) related fun s hs => (hq s hs).trans (second s hs)
  | comment nonempty first related second =>
    exact .comment (mt ht nonempty) (fun s hs => (hp s hs).trans (first s hs)) related fun s hs =>
      (hq s hs).trans (second s hs)
  | fails first second =>
    have hp : p' t = p v := by simpa using hp [] closing_nil
    exact .fails (hp.trans first) fun s hs b u hu => second s hs b u ((hq s hs).symm.trans hu)

/-- Scanners that do the same at the text do not differ. -/
theorem congr {p' : Scan α} {q' : Scan β} (h : Beside R p q t) (hp : ∀ s, Closing s → p' (t ++ s) = p (t ++ s))
    (hq : ∀ s, Closing s → q' (t ++ s) = q (t ++ s)) : Beside R p' q' t :=
  h.transfer id hp hq

/-- One after another, where both have read the first part. -/
theorem bind_of_reads {f : α → Scan γ} {g : β → Scan δ} [hq : Leaves q] {a : α} {b : β} {u : List Char}
    (first : ∀ s, Closing s → p (t ++ s) = some (a, u ++ s)) (second : ∀ s, Closing s → q (t ++ s) = some (b, u ++ s))
    (h : Beside R' (f a) (g b) u) : Beside R' (p >>= f) (q >>= g) t := by
  refine h.transfer ?_ (fun s hs => bind_of_some (first s hs)) fun s hs => bind_of_some (second s hs)
  rintro rfl
  exact List.eq_nil_of_suffix_nil (by simpa using hq.suffix (second [] closing_nil))

/-- One after another, where the first fails or reads into what is behind. -/
theorem bind_of_fails {f : α → Scan γ} {g : β → Scan δ} [hg : ∀ b, Leaves (g b)] (first : p t = none)
    (second : ∀ s, Closing s → ∀ b u, q (t ++ s) = some (b, u) → u <:+ s ∧ u.length < s.length) :
    Beside R' (p >>= f) (q >>= g) t := by
  refine .fails (bind_of_none first) fun s hs d u hu => ?_
  obtain ⟨b, v, hv, hu⟩ := bind_eq_some.1 hu
  obtain ⟨hsuffix, hlt⟩ := second s hs b v hv
  have huv := (hg b).suffix hu
  exact ⟨huv.trans hsuffix, Nat.lt_of_le_of_lt huv.length_le hlt⟩

theorem bind {f : α → Scan γ} {g : β → Scan δ} [Leaves q] [hg : ∀ b, Leaves (g b)] (h : Beside R p q t)
    (hf : ∀ a b t', R a b → Beside R' (f a) (g b) t') : Beside R' (p >>= f) (q >>= g) t := by
  cases h with
  | reads first related second => exact bind_of_reads first second (hf _ _ _ related)
  | comment nonempty first related second =>
    rcases (hf _ _ [] related).at_nil with ⟨c, d, hc, hrelated, hd⟩ | ⟨hc, hd⟩
    · exact .comment nonempty (fun s hs => (bind_of_some (first s hs)).trans hc) hrelated fun s hs =>
        (bind_of_some (second s hs)).trans hd
    · refine .fails ((bind_of_some (alone_comment first)).trans hc) fun s hs b u hu => ?_
      rw [bind_of_some (second s hs), hd] at hu
      cases hu
  | fails first second => exact bind_of_fails first second

theorem ite {c : Prop} [Decidable c] {p' : Scan α} {q' : Scan β} (h : Beside R p q t) (h' : Beside R p' q' t) :
    Beside R (if c then p else p') (if c then q else q') t := by
  split
  · exact h
  · exact h'

/-! ### Characters -/

theorem next_into {s u : List Char} {c : Char} (h : Scan.next s = some (c, u)) : u <:+ s ∧ u.length < s.length := by
  cases s with
  | nil => cases h
  | cons d s =>
    cases h
    exact ⟨List.suffix_cons _ _, Nat.lt_succ_self _⟩

theorem next : Beside Eq next next t := by
  cases t with
  | nil => exact .fails rfl fun s _ c u hu => next_into hu
  | cons c rest => exact .reads (fun _ _ => rfl) rfl fun _ _ => rfl

theorem satisfy (test : Char → Bool) : Beside Eq (satisfy test) (satisfy test) t := by
  refine next.bind ?_
  rintro c _ t' rfl
  exact (pure rfl).ite failure

theorem character (c : Char) : Beside Eq (character c) (character c) t := by
  refine (satisfy _).bind ?_
  rintro _ _ _ rfl
  exact pure rfl

/-- Words without a closing parenthesis do not reach what is behind. -/
theorem isPrefixOf_append {word s : List Char} (hword : ')' ∉ word) (hs : Closing s) (t : List Char) :
    word.isPrefixOf (t ++ s) = word.isPrefixOf t := by
  induction word generalizing t with
  | nil => cases t <;> simp
  | cons c more ih =>
    obtain ⟨hc, hmore⟩ := not_or.1 (List.mem_cons.not.1 hword)
    cases t with
    | nil =>
      cases s with
      | nil => rfl
      | cons d rest =>
        obtain rfl : d = ')' := hs.1 d rfl
        have hne : (c == ')') = false := by simpa using Ne.symm hc
        show (c == ')' && _) = false
        rw [hne, Bool.false_and]
    | cons d rest => rw [List.cons_append, List.isPrefixOf, List.isPrefixOf, ih hmore]

theorem accept {word : String} (hword : ')' ∉ word.toList) : Beside Eq (accept word) (accept word) t := by
  cases h : word.toList.isPrefixOf t with
  | true =>
    have hle : word.toList.length ≤ t.length := (List.isPrefixOf_iff_prefix.1 h).length_le
    have hread : ∀ s, Closing s → Scan.accept word (t ++ s) = some (true, t.drop word.toList.length ++ s) := by
      intro s hs
      rw [Scan.accept, isPrefixOf_append hword hs, h, if_pos rfl, List.drop_append_of_le_length hle]
    exact .reads hread rfl hread
  | false =>
    have hread : ∀ s, Closing s → Scan.accept word (t ++ s) = some (false, t ++ s) := fun s hs => by
      rw [Scan.accept, isPrefixOf_append hword hs, h]
      rfl
    exact .reads hread rfl hread

theorem takeWhile_append {test : Char → Bool} (htest : test ')' = false) {s : List Char} (hs : Closing s)
    (t : List Char) :
    (t ++ s).takeWhile test = t.takeWhile test ∧ (t ++ s).dropWhile test = t.dropWhile test ++ s := by
  induction t with
  | nil =>
    cases s with
    | nil => exact ⟨rfl, rfl⟩
    | cons c rest =>
      obtain rfl : c = ')' := hs.1 c rfl
      simp [htest]
  | cons c rest ih =>
    cases hc : test c <;> simp [hc, ih]

theorem takeWhile {test : Char → Bool} (htest : test ')' = false) :
    Beside Eq (takeWhile test) (takeWhile test) t := by
  have hread : ∀ s, Closing s → Scan.takeWhile test (t ++ s) = some (t.takeWhile test, t.dropWhile test ++ s) :=
    fun s hs => by rw [Scan.takeWhile, (takeWhile_append htest hs t).1, (takeWhile_append htest hs t).2]
  exact .reads hread rfl hread

theorem skipWhile {test : Char → Bool} (htest : test ')' = false) :
    Beside Eq (skipWhile test) (skipWhile test) t := by
  have hread : ∀ s, Closing s → Scan.skipWhile test (t ++ s) = some ((), t.dropWhile test ++ s) := fun s hs => by
    rw [Scan.skipWhile, (takeWhile_append htest hs t).2]
  exact .reads hread rfl hread

/-! ### Looking ahead -/

/-- A test of the text that does not see what is behind. -/
theorem get_test {τ : Type} (test : List Char → τ) {p : τ → Scan α} {q : τ → Scan β}
    (htest : ∀ s, Closing s → test (t ++ s) = test t) (h : ∀ v, Beside R (p v) (q v) t) :
    Beside R (MonadState.get >>= fun rest => p (test rest)) (MonadState.get >>= fun rest => q (test rest)) t := by
  refine (h (test t)).congr (fun s hs => ?_) fun s hs => ?_
  · show p (test (t ++ s)) (t ++ s) = _
    rw [htest s hs]
  · show q (test (t ++ s)) (t ++ s) = _
    rw [htest s hs]

/-- Looking for a certain character. -/
theorem peek_test {c : Char} (hc : c ≠ ')') {p : Bool → Scan α} {q : Bool → Scan β} (h : ∀ v, Beside R (p v) (q v) t) :
    Beside R (peek >>= fun next => p (next == some c)) (peek >>= fun next => q (next == some c)) t := by
  refine get_test (fun rest => rest.head? == some c) (fun s hs => ?_) h
  cases t with
  | cons d rest => rfl
  | nil =>
    cases s with
    | nil => rfl
    | cons d rest =>
      obtain rfl : d = ')' := hs.1 d rfl
      simpa using Ne.symm hc

theorem peek_ite {c : Char} (hc : c ≠ ')') {p' : Scan α} {q' : Scan β} (h : Beside R p q t) (h' : Beside R p' q' t) :
    Beside R (peek >>= fun next => if (next == some c) = true then p else p')
      (peek >>= fun next => if (next == some c) = true then q else q') t :=
  peek_test (p := fun v => if v = true then p else p') (q := fun v => if v = true then q else q') hc fun _ => h.ite h'

/-! ### Repetitions -/

theorem iterate {τ : Type} {S : σ → τ → Prop} {step : σ → Scan (Step σ α)} {step' : τ → Scan (Step τ β)}
    [hleaves : ∀ b, Leaves (step' b)] (hstep : ∀ a b t, S a b → Beside (StepBeside S R) (step a) (step' b) t) {a : σ}
    {b : τ} (hab : S a b) : Beside R (iterate step a) (iterate step' b) t := by
  induction hn : t.length using Nat.strongRecOn generalizing a b t with
  | _ n ih =>
    subst hn
    cases hstep a b t hab with
    | reads first related second =>
      cases related with
      | stop related =>
        exact .reads (fun s hs => iterate_of_stop (first s hs)) related fun s hs => iterate_of_stop (second s hs)
      | again related =>
        rename_i t' a' b'
        by_cases hlt : t'.length < t.length
        · have hlt' : ∀ s, (t' ++ s).length < (t ++ s).length := fun s => by simpa using hlt
          refine (ih _ hlt related rfl).transfer ?_ (fun s hs => iterate_of_again (first s hs) (hlt' s)) fun s hs =>
            iterate_of_again (second s hs) (hlt' s)
          rintro rfl
          cases hlt
        · refine .fails (iterate_of_again_of_not_lt (alone first) hlt) fun s hs x u hu => ?_
          rw [iterate_of_again_of_not_lt (second s hs) (by simpa using hlt)] at hu
          cases hu
    | comment nonempty first related second =>
      cases related with
      | stop related =>
        exact .comment nonempty (fun s hs => iterate_of_stop (first s hs)) related fun s hs =>
          iterate_of_stop (second s hs)
      | again related =>
        rename_i a' b'
        have hpos : ([] : List Char).length < t.length := List.length_pos_iff.2 nonempty
        have hpos' : ∀ s, ([] : List Char).length < (t ++ s).length := fun s => by rw [List.length_append]; omega
        rcases (ih _ hpos related rfl).at_nil with ⟨x, y, hx, hrelated, hy⟩ | ⟨hx, hy⟩
        · exact .comment nonempty (fun s hs => (iterate_of_again (first s hs) (hpos' s)).trans hx) hrelated fun s hs =>
            (iterate_of_again (second s hs) (hpos' s)).trans hy
        · refine .fails ((iterate_of_again (alone_comment first) hpos).trans hx) fun s hs x u hu => ?_
          rw [iterate_of_again (second s hs) (hpos' s), hy] at hu
          cases hu
    | fails first second =>
      refine .fails (by rw [Scan.iterate, first]) fun s hs x u hu => ?_
      rw [Scan.iterate] at hu
      split at hu
      · cases hu
      · next hstop =>
        cases hu
        exact second s hs _ _ hstop
      · next b' rest hagain =>
        obtain ⟨hsuffix, hlt⟩ := second s hs _ _ hagain
        split at hu
        · have hleft := (Leaves.iterate b').suffix hu
          exact ⟨hleft.trans hsuffix, Nat.lt_of_le_of_lt hleft.length_le hlt⟩
        · cases hu

theorem mapM {ι : Type} {f : ι → Scan α} {g : ι → Scan β} [hg : ∀ i, Leaves (g i)]
    (h : ∀ i t, Beside R (f i) (g i) t) (l : List ι) : Beside (List.Forall₂ R) (l.mapM f) (l.mapM g) t := by
  induction l generalizing t with
  | nil => exact pure .nil
  | cons i rest ih =>
    rw [List.mapM_cons, List.mapM_cons]
    exact (h i t).bind fun _ _ _ hfirst => ih.bind fun _ _ _ hrest => pure (.cons hfirst hrest)

end Beside

/-! ## Up to a certain character -/

/-- Two scanners that take all that comes before a certain character, so that the second may go on into what is behind
where the first has come to the end. -/
inductive UpTo (p q : Scan α) (t : List Char) : Prop
  | reads {a : α} {u : List Char} (nonempty : u ≠ []) (first : ∀ s, Closing s → p (t ++ s) = some (a, u ++ s))
    (second : ∀ s, Closing s → q (t ++ s) = some (a, u ++ s))
  | ends {a : α} (first : p t = some (a, [])) (second : ∀ s, Closing s → ∀ b u, q (t ++ s) = some (b, u) → u <:+ s)

namespace UpTo

variable {γ δ : Type} {R : γ → δ → Prop} {p q : Scan α} {t : List Char}

theorem takeWhile (test : Char → Bool) : UpTo (takeWhile test) (takeWhile test) t := by
  cases hrest : t.dropWhile test with
  | nil =>
    refine .ends (a := t.takeWhile test) (by rw [Scan.takeWhile, hrest]) fun s _ b u hu => ?_
    have hall : (t ++ s).dropWhile test = s.dropWhile test := by
      rw [List.dropWhile_append, hrest]
      rfl
    cases hu
    rw [hall]
    exact List.dropWhile_suffix _
  | cons c rest =>
    have hne : (t.dropWhile test).isEmpty = false := by rw [hrest]; rfl
    have hread : ∀ s, Closing s → Scan.takeWhile test (t ++ s) = some (t.takeWhile test, c :: rest ++ s) := fun s _ => by
      have htake : (t ++ s).takeWhile test = t.takeWhile test := by
        have hlength := congrArg List.length (List.takeWhile_append_dropWhile (p := test) (l := t))
        rw [hrest, List.length_append, List.length_cons] at hlength
        rw [List.takeWhile_append, if_neg (by omega)]
      rw [Scan.takeWhile, htake, List.dropWhile_append, hne, hrest]
      rfl
    exact .reads (List.cons_ne_nil c rest) hread hread

/-- The certain character comes next, or both fail, or it is found behind. -/
theorem character {f : α → Scan γ} {g : α → Scan δ} [hq : Leaves q] [hg : ∀ a, Leaves (g a)] (h : UpTo p q t) (c : Char)
    (hf : ∀ a t', Beside R (f a) (g a) t') :
    Beside R (p >>= fun a => Scan.character c >>= fun _ => f a) (q >>= fun a => Scan.character c >>= fun _ => g a) t := by
  cases h with
  | @reads a _ nonempty first second =>
    exact Beside.bind_of_reads first second ((Beside.character c).bind fun _ _ _ _ => hf a _)
  | ends first second =>
    refine .fails ((bind_of_some first).trans rfl) fun s hs d u hu => ?_
    obtain ⟨b, v, hv, hbehind⟩ := bind_eq_some.1 hu
    obtain ⟨_, w, hw, hlast⟩ := bind_eq_some.1 hbehind
    obtain rfl := eq_cons_of_character hw
    have hsuffix := second s hs b _ hv
    have hleft := (hg b).suffix hlast
    have hlength := hsuffix.length_le
    rw [List.length_cons] at hlength
    exact ⟨hleft.trans ((List.suffix_cons c w).trans hsuffix), by have := hleft.length_le; omega⟩

end UpTo

end Scan

end DependencyEvidence
