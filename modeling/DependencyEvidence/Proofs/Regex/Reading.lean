import DependencyEvidence.Proofs.Regex.Parts

/-!
# Whole patterns within groups

A reader in front of a pattern, and another one that has further groups open around it, with something behind the pattern
that closes them.

* If the first reads the pattern, the second comes to its end with the same expression (`Reader.Within.read`), unless
  the pattern ends in a comment.
* If the first refuses it, the second refuses it with what is behind, as long as this closes no more groups than the
  second has open (`Reader.Within.read_eq_none`), unless the pattern closes a group that it has not opened
  (`Reader.Overcloses`).

A reader that comes to the end has closed all of its groups, so that there is a parenthesis for each of them
(`Reader.length_outer_le`).
-/

namespace DependencyEvidence.Regex

open Scan (Beside Closing Gives Leaves)

variable {same : Prop} {f : Flags} {more : List Group} {r r' w : Reader} {t u rest : List Char} {c : Char} {p : Piece}

/-! ## One part after another -/

theorem skipBlanks_closing (f : Flags) {s : List Char} (hs : Closing s) : skipBlanks f s = some ((), s) := by
  rw [skipBlanks, afterBlanks_closing hs]
  split <;> rfl

theorem step_of_nil (h : skipBlanks r.flags t = some ((), [])) : step r t = r.finish?.map fun p => (.stop p, []) := by
  have hstep : step r t = (Scan.present r.finish? >>= fun p => pure (.stop p)) [] := Scan.bind_of_some h
  rw [hstep]
  cases r.finish? <;> rfl

theorem step_of_cons (h : skipBlanks r.flags t = some ((), c :: rest)) :
    step r t = (part r c rest).map fun x => (.again x.1, x.2) := by
  have hstep : step r t = (part r c >>= fun r => pure (.again r)) rest := Scan.bind_of_some h
  rw [hstep]
  cases hp : part r c rest with
  | none => exact Scan.bind_of_none hp
  | some x => exact Scan.bind_of_some (a := x.1) (v := x.2) hp

namespace Reader

theorem read_of_nil (h : skipBlanks r.flags t = some ((), [])) : r.read t = r.finish?.map fun p => (p, []) := by
  have hstep := step_of_nil h
  unfold Reader.read
  rw [Scan.iterate, hstep]
  cases r.finish? <;> rfl

theorem read_of_none (h : skipBlanks r.flags t = some ((), c :: rest)) (hpart : part r c rest = none) :
    r.read t = none := by
  unfold Reader.read
  rw [Scan.iterate, step_of_cons h, hpart]
  rfl

/-- A part takes at least its first character. -/
theorem length_of_part (h : skipBlanks r.flags t = some ((), c :: rest)) (hpart : part r c rest = some (r', u)) :
    u.length < t.length := by
  have hrest := (Leaves.suffix h).length_le
  have hu := (Leaves.suffix hpart).length_le
  rw [List.length_cons] at hrest
  omega

theorem read_of_part (h : skipBlanks r.flags t = some ((), c :: rest)) (hpart : part r c rest = some (r', u)) :
    r.read t = r'.read u := by
  have hstep : step r t = some (.again r', u) := by rw [step_of_cons h, hpart]; rfl
  exact Scan.iterate_of_again hstep (length_of_part h hpart)

/-- Only what follows the blanks counts. -/
theorem read_congr (h : skipBlanks r.flags t = skipBlanks r.flags u) : r.read t = r.read u := by
  cases ht : skipBlanks r.flags t with
  | none => cases ht
  | some x =>
    obtain ⟨⟨⟩, v⟩ := x
    cases v with
    | nil => rw [read_of_nil ht, read_of_nil (h.symm.trans ht)]
    | cons c rest =>
      cases hpart : part r c rest with
      | none => rw [read_of_none ht hpart, read_of_none (h.symm.trans ht) hpart]
      | some x => rw [read_of_part ht hpart, read_of_part (h.symm.trans ht) hpart]

end Reader

/-! ## Groups that are open -/

/-- The reader has at least so many groups open. -/
def Reader.Open (n : Nat) (r : Reader) : Prop := n ≤ r.outer.length

theorem gives_repeatLast (r : Reader) (least : Nat) (most : Option Nat) (marked : Bool) :
    ∀ r' ∈ r.repeatLast? least most marked, r'.Open r.outer.length := by
  intro r' h
  unfold Reader.repeatLast? at h
  split at h
  · cases h
    exact Nat.le_refl _
  · cases h

theorem gives_group (r : Reader) : Gives (Reader.Open r.outer.length) (group r) := by
  have hopened : ∀ names, Reader.Open r.outer.length { r with names }.openGroup := fun _ => Nat.le_succ _
  have hnamed : Gives (Reader.Open r.outer.length) (namedGroup r) := .bind fun _ => .pure (hopened _)
  have hchanged : ∀ letters behind, ∀ r' ∈ r.changed? letters behind, r'.Open r.outer.length := by
    intro letters behind r' h
    obtain ⟨flags, -, h⟩ := Option.bind_eq_some_iff.1 h
    split at h
    · cases h
      exact Nat.le_succ _
    split at h
    · cases h
    · cases h
      exact Nat.le_refl _
  refine .bind fun _ => .bind fun _ => .ite .failure ?_
  refine .bind fun _ => .ite hnamed (.bind fun _ => .ite hnamed (.bind fun _ => .ite ?_ (.pure (hopened _))))
  exact .bind fun letters => .bind fun behind => .present (hchanged letters behind)

theorem gives_primitive (r : Reader) (c : Char) : Gives (Reader.Open r.outer.length) (primitive r c) := by
  have hpush : ∀ p, Reader.Open r.outer.length (r.pushPiece p) := fun _ => Nat.le_refl _
  unfold primitive
  dsimp only
  split
  case h_1 => exact .bind fun _ => .pure (hpush _)
  case h_2 => exact .ite (.pure (hpush _)) .failure
  case h_3 | h_4 | h_5 => exact .pure (hpush _)

/-- Only a closing parenthesis closes a group. -/
theorem gives_part (r : Reader) (hc : c ≠ ')') : Gives (Reader.Open r.outer.length) (part r c) := by
  have hrepetition : ∀ least most, Gives (Reader.Open r.outer.length) (repetition r least most) := fun _ _ =>
    .bind fun _ => .bind fun _ => .present (gives_repeatLast r _ _ _)
  unfold part
  split
  case h_1 => exact gives_group r
  case h_2 => exact absurd rfl hc
  case h_3 => exact .pure (Nat.le_refl _)
  case h_4 => exact .bind fun _ => .pure (Nat.le_refl _)
  case h_5 | h_6 | h_7 => exact hrepetition _ _
  case h_8 => exact .bind fun _ => .present (gives_repeatLast r _ _ _)
  case h_9 => exact gives_primitive r _

theorem Reader.closeGroup?_length (h : r.closeGroup? = some r') : r.outer.length = r'.outer.length + 1 := by
  unfold Reader.closeGroup? at h
  split at h
  · cases h
  · next houter =>
    cases h
    rw [houter]
    rfl

/-- A reader that comes to the end finds a closing parenthesis for every open group. -/
theorem Reader.length_outer_le {x : Piece × List Char} (h : r.read t = some x) : r.outer.length ≤ t.count ')' := by
  induction hn : t.length using Nat.strongRecOn generalizing r t with
  | _ n ih =>
    subst hn
    cases ht : skipBlanks r.flags t with
    | none => cases ht
    | some y =>
      obtain ⟨⟨⟩, v⟩ := y
      cases v with
      | nil =>
        rw [read_of_nil ht] at h
        unfold Reader.finish? at h
        split at h
        · next hempty => rw [List.isEmpty_iff.1 hempty]; exact Nat.zero_le _
        · cases h
      | cons c rest =>
        cases hpart : part r c rest with
        | none => rw [read_of_none ht hpart] at h; cases h
        | some y =>
          obtain ⟨r', u⟩ := y
          rw [read_of_part ht hpart] at h
          have hrest := ih u.length (length_of_part ht hpart) h rfl
          have hu : u.count ')' ≤ rest.count ')' := (Leaves.suffix hpart).sublist.count_le _
          have hv : (c :: rest).count ')' ≤ t.count ')' := (Leaves.suffix ht).sublist.count_le _
          by_cases hc : c = ')'
          · subst hc
            have hclose : r.closeGroup? = some r' := by
              have hpresent : Scan.present r.closeGroup? rest = some (r', u) := hpart
              cases hr : r.closeGroup? with
              | none => rw [hr] at hpresent; cases hpresent
              | some a => rw [hr] at hpresent; cases hpresent; rfl
            have hlength := closeGroup?_length hclose
            rw [List.count_cons_self] at hv
            omega
          · have hopen : r.outer.length ≤ r'.outer.length := gives_part r hc _ _ _ hpart
            rw [List.count_cons_of_ne hc] at hv
            omega

/-! ## Patterns within groups -/

/-- A reader comes upon a closing parenthesis while no group is open. -/
inductive Reader.Overcloses : Reader → List Char → Prop
  | here {r : Reader} {t rest : List Char} (closed : r.outer = []) (next : skipBlanks r.flags t = some ((), ')' :: rest)) :
    r.Overcloses t
  | later {r r' : Reader} {t u : List Char} (first : step r t = some (.again r', u)) (behind : r'.Overcloses u) :
    r.Overcloses t

theorem Reader.read_of_skip_nil (h : skipBlanks r.flags t = some ((), [])) : r.read t = r.read [] :=
  read_congr (h.trans (skipBlanks_closing _ Scan.closing_nil).symm)

/-- A closing parenthesis is refused exactly where no group is open. -/
theorem part_close_eq_none_iff (t : List Char) : part r ')' t = none ↔ r.outer = [] := by
  show Scan.present r.closeGroup? t = none ↔ _
  unfold Reader.closeGroup?
  cases r.outer with
  | nil => exact iff_of_true rfl rfl
  | cons next outer => exact iff_of_false (fun h => nomatch h) (List.cons_ne_nil _ _)

/-- What a scanner leaves when it reads into what is behind closes fewer groups. -/
theorem count_lt_of_suffix {s : List Char} (hs : Closing s) (hsuffix : u <:+ s) (hlt : u.length < s.length) :
    u.count ')' < s.count ')' := by
  cases s with
  | nil => cases hlt
  | cons c behind =>
    obtain rfl : c = ')' := hs.1 c rfl
    rcases List.suffix_cons_iff.1 hsuffix with rfl | hbehind
    · exact absurd hlt (Nat.lt_irrefl _)
    · rw [List.count_cons_self]
      exact Nat.lt_succ_of_le (hbehind.sublist.count_le _)

/-- A pattern that closes a group without having opened it is refused. -/
theorem Reader.Overcloses.read_eq_none (h : r.Overcloses t) : r.read t = none := by
  induction h with
  | here closed next => exact read_of_none next ((part_close_eq_none_iff _).2 closed)
  | later first _ ih =>
    unfold Reader.read at ih ⊢
    rw [Scan.iterate, first]
    dsimp only
    split
    · exact ih
    · rfl

/-- A brace that is left behind the edge of a word is refused, because no counts follow. -/
theorem read_brace {s : List Char} (hs : Closing s) (h : skipBlanks w.flags (rest ++ s) = some ((), s)) :
    w.read ('\x7b' :: rest ++ s) = none := by
  have hblank : skipBlanks w.flags ('\x7b' :: (rest ++ s)) = some ((), '\x7b' :: (rest ++ s)) := by
    have hbrace : Unicode.isBlank '\x7b' = false := by decide +kernel
    rw [skipBlanks, afterBlanks, hbrace]
    split <;> rfl
  have hdigits : takeSpaced w.flags Char.isDigit s = some ([], s) := by
    cases s with
    | nil => exact iterate_spacedStep_nil _ _
    | cons c behind =>
      obtain rfl : c = ')' := hs.1 c rfl
      exact iterate_spacedStep_stop (by decide) [] behind
  have hcount : count w.flags s = none := by
    have hskip : Scan.skipWhile Unicode.isBlank s = some ((), s) := by
      rw [Scan.skipWhile, ← List.nil_append s, (Beside.takeWhile_append isBlank_paren hs []).2]
      rfl
    show (Scan.skipWhile Unicode.isBlank >>= fun _ => takeSpaced w.flags Char.isDigit >>= _) s = none
    rw [Scan.bind_of_some hskip, Scan.bind_of_some hdigits, Scan.bind_of_some hskip]
    rfl
  have hcounts : counts w.flags (rest ++ s) = none := by
    show (skipBlanks w.flags >>= fun _ => count w.flags >>= _) (rest ++ s) = none
    rw [Scan.bind_of_some h, Scan.bind_of_none hcount]
  exact Reader.read_of_none hblank (Scan.bind_of_none hcounts)

/-- A reader with too many groups open for what is behind refuses it. -/
theorem Reader.read_eq_none_of_count (h : t.count ')' < r.outer.length) : r.read t = none := by
  cases hread : r.read t with
  | none => rfl
  | some x => exact absurd (length_outer_le hread) (Nat.not_le.2 h)

/-- What a part that the first refuses leaves to the second is refused by the second. -/
theorem Reader.Within.read_eq_none_of_fails (h : r.Within same f more w) (hc : c ≠ ')')
    (hinto : ∀ s, Closing s → ∀ w' u, part w c (rest ++ s) = some (w', u) → u <:+ s ∧ u.length < s.length)
    (hskip : ∀ s, Closing s → skipBlanks w.flags (t ++ s) = some ((), c :: rest ++ s)) {s : List Char} (hs : Closing s)
    (hcount : s.count ')' ≤ more.length) : w.read (t ++ s) = none := by
  cases hw : part w c (rest ++ s) with
  | none => exact Reader.read_of_none (hskip s hs) hw
  | some x =>
    obtain ⟨w', u⟩ := x
    have hopened : w.outer.length ≤ w'.outer.length := gives_part w hc _ _ _ hw
    have hmore := h.stack.length
    obtain ⟨hsuffix, hlt⟩ := hinto s hs w' u hw
    have hu := count_lt_of_suffix hs hsuffix hlt
    rw [Reader.read_of_part (hskip s hs) hw]
    exact Reader.read_eq_none_of_count (by omega)

/-- A brace that is left by the second is refused by it. -/
theorem LeavesBrace.read_eq_none (h : LeavesBrace r w c rest)
    (hskip : ∀ s, Closing s → skipBlanks w.flags (t ++ s) = some ((), c :: rest ++ s)) {s : List Char} (hs : Closing s) :
    w.read (t ++ s) = none := by
  obtain ⟨behind, hbehind⟩ := h.second
  obtain ⟨hblanks, hleft⟩ := hbehind s hs
  cases hw : part w c (rest ++ s) with
  | none => exact Reader.read_of_none (hskip s hs) hw
  | some x =>
    obtain ⟨w', u⟩ := x
    obtain ⟨hflags, rfl⟩ := hleft w' u hw
    rw [Reader.read_of_part (hskip s hs) hw]
    exact read_brace hs (hflags ▸ hblanks)

/-- What two readers make of the next part of a text with something behind it. -/
inductive Reader.Together (same : Prop) (f : Flags) (more : List Group) (r w : Reader) (t : List Char) : Prop
  /-- Only blanks are left. -/
  | ends (first : ∀ s, Closing s → r.read (t ++ s) = r.read s) (second : ∀ s, Closing s → w.read (t ++ s) = w.read s)
  /-- Both come to the end with a comment, which takes in what is behind. -/
  | comment {r' w' : Reader} (within : r'.Within same f more w') (first : ∀ s, Closing s → r.read (t ++ s) = r'.read [])
    (second : ∀ s, Closing s → w.read (t ++ s) = w'.read [])
  /-- Both read the same part. -/
  | part {r' w' : Reader} {u : List Char} (within : r'.Within same f more w') (shorter : u.length < t.length)
    (step : step r t = some (.again r', u)) (first : ∀ s, Closing s → r.read (t ++ s) = r'.read (u ++ s))
    (second : ∀ s, Closing s → w.read (t ++ s) = w'.read (u ++ s))
  /-- The first closes a group that it has not opened. -/
  | overcloses (overcloses : r.Overcloses t)
  /-- The first refuses the text, and the second does so with anything behind that closes no more groups than there are. -/
  | refused (first : r.read t = none)
    (second : ∀ s, Closing s → s.count ')' ≤ more.length → w.read (t ++ s) = none)

theorem Reader.Within.together (h : r.Within same f more w) (t : List Char) : Reader.Together same f more r w t := by
  cases beside_skipBlanks (t := t) h.flags with
  | comment _ first _ second =>
    exact .comment h (fun s hs => read_of_skip_nil (first s hs)) fun s hs => read_of_skip_nil (second s hs)
  | fails first => exact absurd first (by simp [skipBlanks])
  | @reads _ v _ first _ second =>
    cases v with
    | nil =>
      have hskipped : ∀ {r : Reader} s, Closing s → skipBlanks r.flags (t ++ s) = some ((), [] ++ s) →
          r.read (t ++ s) = r.read s := fun s hs h => read_congr (h.trans (skipBlanks_closing _ hs).symm)
      exact .ends (fun s hs => hskipped s hs (first s hs)) fun s hs => hskipped s hs (second s hs)
    | cons c rest =>
      by_cases hover : c = ')' ∧ r.outer = []
      · obtain ⟨rfl, houter⟩ := hover
        exact .overcloses (.here houter (Scan.alone first))
      have hc : c = ')' → r.outer ≠ [] := fun hc houter => hover ⟨hc, houter⟩
      rcases beside_part h hc with hbeside | hbrace
      · cases hbeside with
        | @reads r' v w' hr hwithin hw =>
          have hstep : step r t = some (.again r', v) := by rw [step_of_cons (Scan.alone first), Scan.alone hr]; rfl
          exact .part hwithin (length_of_part (Scan.alone first) (Scan.alone hr)) hstep
            (fun s hs => read_of_part (first s hs) (hr s hs)) fun s hs => read_of_part (second s hs) (hw s hs)
        | comment _ hr hwithin hw =>
          exact .comment hwithin (fun s hs => read_of_part (first s hs) (hr s hs)) fun s hs =>
            read_of_part (second s hs) (hw s hs)
        | fails hr hinto =>
          have hne : c ≠ ')' := fun heq => hc heq ((part_close_eq_none_iff rest).1 (heq ▸ hr))
          exact .refused (read_of_none (Scan.alone first) hr) fun s hs => h.read_eq_none_of_fails hne hinto second hs
      · exact .refused (read_of_none (Scan.alone first) hbrace.first) fun s hs _ => hbrace.read_eq_none second hs

/-- What is read alone is read within further groups, and then what is behind; unless the pattern ends in a comment,
which takes in what is behind. -/
theorem Reader.Within.read (h : r.Within same f more w) (hread : r.read t = some (p, u)) :
    ∃ r' w' : Reader, r'.Within same f more w' ∧ r'.read [] = some (p, u) ∧
      ((∀ s, Closing s → r.read (t ++ s) = r'.read s ∧ w.read (t ++ s) = w'.read s) ∨
        ∀ s, Closing s → r.read (t ++ s) = r'.read [] ∧ w.read (t ++ s) = w'.read []) := by
  induction hn : t.length using Nat.strongRecOn generalizing r w t with
  | _ n ih =>
    subst hn
    have halone : ∀ {u : List Char} {r' : Reader}, r.read (t ++ []) = r'.read u → r'.read u = r.read t := fun h => by
      rw [← h, List.append_nil]
    cases h.together t with
    | ends first second =>
      exact ⟨r, w, h, (halone (first [] Scan.closing_nil)).trans hread, .inl fun s hs => ⟨first s hs, second s hs⟩⟩
    | @comment r' w' within first second =>
      exact ⟨r', w', within, (halone (first [] Scan.closing_nil)).trans hread,
        .inr fun s hs => ⟨first s hs, second s hs⟩⟩
    | @part r₁ w₁ v within shorter _ first second =>
      have hrest : r₁.read v = some (p, u) := by
        rw [← hread, ← halone (first [] Scan.closing_nil), List.append_nil]
      obtain ⟨r', w', hwithin, hend, hbehind⟩ := ih v.length shorter within hrest rfl
      refine ⟨r', w', hwithin, hend, hbehind.imp (fun hleft s hs => ?_) fun hright s hs => ?_⟩
      · exact ⟨(first s hs).trans (hleft s hs).1, (second s hs).trans (hleft s hs).2⟩
      · exact ⟨(first s hs).trans (hright s hs).1, (second s hs).trans (hright s hs).2⟩
    | overcloses overcloses => cases hread.symm.trans overcloses.read_eq_none
    | refused first => cases hread.symm.trans first

/-- What is refused alone is refused within further groups, with anything behind that closes no more groups than these. -/
theorem Reader.Within.read_eq_none (h : r.Within same f more w) (hnone : r.read t = none) (hcloses : ¬ r.Overcloses t)
    {s : List Char} (hs : Closing s) (hcount : s.count ')' ≤ more.length) : w.read (t ++ s) = none := by
  have hend : ∀ {r w : Reader}, r.Within same f more w → r.read [] = none → more.length < w.outer.length := fun h hr => by
    refine h.length_of_finish? ?_
    rwa [read_of_nil (skipBlanks_closing _ Scan.closing_nil), Option.map_eq_none_iff] at hr
  induction hn : t.length using Nat.strongRecOn generalizing r w t with
  | _ n ih =>
    subst hn
    have halone : ∀ {u : List Char} {r' : Reader}, r.read (t ++ []) = r'.read u → r'.read u = none := fun h => by
      rw [← h, List.append_nil, hnone]
    cases h.together t with
    | ends first second =>
      have hlength := hend h (halone (first [] Scan.closing_nil))
      rw [second s hs]
      exact read_eq_none_of_count (Nat.lt_of_le_of_lt hcount hlength)
    | comment within first second =>
      have hlength := hend within (halone (first [] Scan.closing_nil))
      rw [second s hs]
      exact read_eq_none_of_count (Nat.zero_lt_of_lt hlength)
    | @part r₁ w₁ v within shorter step first second =>
      have hrest : r₁.read v = none := by simpa using halone (first [] Scan.closing_nil)
      rw [second s hs]
      exact ih v.length shorter within hrest (fun hlater => hcloses (.later step hlater)) rfl
    | overcloses overcloses => exact absurd overcloses hcloses
    | refused _ second => exact second s hs hcount

end DependencyEvidence.Regex
