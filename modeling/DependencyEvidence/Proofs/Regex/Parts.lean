import DependencyEvidence.Proofs.Regex.Readers

/-!
# Parts of patterns

One part of a pattern, read by a reader in front of a text and by another one that has further groups open around the
text (`beside_part`). The two stay together, with two exceptions. A closing parenthesis where the first has no group open
closes a group of the second. And behind an escape that asks for the edge of a word, a brace at the end of the text is
refused by the first, where the second leaves it to the part that comes next (`LeavesBrace`).
-/

namespace DependencyEvidence.Regex

open Scan (Beside Closing Leaves)

variable {same : Prop} {f g : Flags} {more : List Group} {r w : Reader} {t : List Char}

/-! ## Groups -/

instance (names : List (List Char)) : Leaves (groupName names) := by
  unfold groupName
  infer_instance

instance (r : Reader) : Leaves (namedGroup r) := by
  unfold namedGroup
  infer_instance

instance (r : Reader) : Leaves (flagGroup r) := by
  unfold flagGroup
  infer_instance

instance (r : Reader) : Leaves (openingGroup r) := by
  unfold openingGroup
  infer_instance

instance (r : Reader) : Leaves (group r) := by
  unfold group
  infer_instance

theorem beside_groupName (names : List (List Char)) : Beside Eq (groupName names) (groupName names) t :=
  (Scan.UpTo.takeWhile _).character _ fun _ _ => (Beside.pure rfl).ite .failure

theorem beside_namedGroup (h : r.Within same f more w) :
    Beside (Reader.Within same f more) (namedGroup r) (namedGroup w) t := by
  unfold namedGroup
  rw [h.names]
  refine (beside_groupName _).bind ?_
  rintro name _ _ rfl
  exact .pure (Reader.Within.openGroup ⟨h.flags, rfl, h.groups, h.stack⟩)

theorem beside_flagGroup (h : r.Within same f more w) :
    Beside (Reader.Within same f more) (flagGroup r) (flagGroup w) t := by
  refine (Beside.takeWhile (by decide)).bind ?_
  rintro letters _ _ rfl
  refine Beside.next.bind ?_
  rintro behind _ _ rfl
  exact beside_present (h.changed? letters behind)

theorem beside_openingGroup (h : r.Within same f more w) :
    Beside (Reader.Within same f more) (openingGroup r) (openingGroup w) t := by
  refine (Beside.accept (by decide)).bind ?_
  rintro named _ _ rfl
  refine (beside_namedGroup h).ite ((Beside.accept (by decide)).bind ?_)
  rintro named _ _ rfl
  refine (beside_namedGroup h).ite ((Beside.accept (by decide)).bind ?_)
  rintro changes _ _ rfl
  exact (beside_flagGroup h).ite (.pure h.openGroup)

theorem any_isPrefixOf_append {words : List String} (hwords : ∀ word ∈ words, ')' ∉ word.toList) {s : List Char}
    (hs : Closing s) (t : List Char) :
    words.any (·.toList.isPrefixOf (t ++ s)) = words.any (·.toList.isPrefixOf t) := by
  induction words with
  | nil => rfl
  | cons word more ih =>
    obtain ⟨hword, hmore⟩ := List.forall_mem_cons.1 hwords
    rw [List.any_cons, List.any_cons, Beside.isPrefixOf_append hword hs, ih hmore]

theorem beside_group (h : r.Within same f more w) : Beside (Reader.Within same f more) (group r) (group w) t := by
  refine (beside_skipBlanks h.flags).bind fun _ _ t _ => ?_
  let reader : Reader → Bool → Scan Reader := fun r looks => if looks = true then failure else openingGroup r
  refine Beside.get_test (p := reader r) (q := reader w) (fun rest => lookarounds.any (·.toList.isPrefixOf rest))
    (fun s hs => any_isPrefixOf_append (by decide) hs t) fun looks => ?_
  exact Beside.failure.ite (beside_openingGroup h)

/-! ## Single characters -/

instance (r : Reader) (c : Char) : Leaves (primitive r c) := by
  unfold primitive
  dsimp only
  split <;> infer_instance

instance (r : Reader) (least : Nat) (most : Option Nat) : Leaves (repetition r least most) := by
  unfold repetition
  infer_instance

instance (r : Reader) (c : Char) : Leaves (part r c) := by
  unfold part
  split <;> infer_instance

instance (r : Reader) : Leaves (step r) := by
  unfold step
  infer_instance

theorem near_characterUnder (h : f.Near same g) (c : Char) : (characterUnder f c).Near same (characterUnder g c) :=
  .one (h.withCases fun _ => rfl) rfl

theorem near_escape_piece (h : f.Near same g) {a b : Escape} (hab : a.Near same b) :
    (a.piece f).Near same (b.piece g) := by
  cases hab with
  | character c => exact near_characterUnder h c
  | «class» hset => exact .one hset rfl
  | assertion a => exact .holds a

/-- Where a brace is left behind the edge of a word: it ends the text with blanks, so that the first reader refuses it, and
the second goes on in front of it. -/
structure LeavesBrace (r w : Reader) (c : Char) (t : List Char) : Prop where
  first : part r c t = none
  second : ∃ rest, ∀ s, Closing s → skipBlanks w.flags (rest ++ s) = some ((), s) ∧
    ∀ w' u, part w c (t ++ s) = some (w', u) → w'.flags = w.flags ∧ u = '\x7b' :: rest ++ s

theorem beside_primitive_escape (h : r.Within same f more w) :
    Beside (Reader.Within same f more) (part r '\\') (part w '\\') t ∨ LeavesBrace r w '\\' t := by
  have hread : ∀ {p : Scan Escape} {q : Scan Escape} [Leaves q] {t}, Beside (Escape.Near same) p q t →
      Beside (Reader.Within same f more) (p >>= fun e => pure (r.pushPiece (e.piece r.flags)))
        (q >>= fun e => pure (w.pushPiece (e.piece w.flags))) t :=
    fun h' => h'.bind fun _ _ _ hab => .pure (h.pushPiece (near_escape_piece h.flags hab))
  cases t with
  | nil =>
    refine .inl (hread (Beside.bind_of_fails (f := escapeOf _) (g := escapeOf _) rfl fun s _ c u hu => ?_))
    exact Beside.next_into hu
  | cons c rest =>
    have hne : c :: rest = [] → rest = [] := fun hnil => nomatch hnil
    by_cases hc : c = 'b'
    · subst hc
      rcases edge_cases (t := rest) h.flags with hedge | ⟨rest, rfl, hnone, hbrace⟩
      · have hword : Beside (Escape.Near same) (edge r.flags >>= fun e => pure (r.flags.wordEdge e))
            (edge w.flags >>= fun e => pure (w.flags.wordEdge e)) rest :=
          hedge.bind fun _ _ _ he => .pure (he ▸ near_wordEdge h.flags _)
        exact .inl ((hread hword).transfer hne (fun _ _ => rfl) fun _ _ => rfl)
      · refine .inr ⟨?_, rest, fun s hs => ⟨(hbrace s hs).1, fun w' u hu => ?_⟩⟩
        · have hescape : (edge r.flags >>= fun e => pure (r.flags.wordEdge e)) ('\x7b' :: rest) = none :=
            Scan.bind_of_none hnone
          exact Scan.bind_of_none (p := escape r.flags) (t := 'b' :: '\x7b' :: rest) hescape
        · obtain ⟨e, v, he, hw'⟩ := Scan.bind_eq_some.1 hu
          obtain ⟨edge, v', hedge, hv⟩ := Scan.bind_eq_some.1
            (show (Regex.edge w.flags >>= fun e => pure (w.flags.wordEdge e)) ('\x7b' :: rest ++ s) = some (e, v) from he)
          cases hw'
          cases hv
          exact ⟨rfl, (hbrace s hs).2 _ _ hedge⟩
    · exact .inl ((hread (beside_escapeOf h.flags hc)).transfer hne (fun _ _ => rfl) fun _ _ => rfl)

theorem beside_primitive (h : r.Within same f more w) {c : Char} (hc : c ≠ '\\') :
    Beside (Reader.Within same f more) (primitive r c) (primitive w c) t := by
  unfold primitive
  dsimp only
  have hf := h.flags
  split
  case h_1 => exact absurd rfl hc
  case h_2 =>
    rw [hf.unicode, hf.dotAll, hf.crlf]
    exact (Beside.pure (h.pushPiece (.one (fun _ => rfl) rfl))).ite .failure
  case h_3 =>
    rw [hf.multiLine, hf.crlf]
    exact .pure (h.pushPiece (.holds _))
  case h_4 =>
    rw [hf.multiLine, hf.crlf]
    exact .pure (h.pushPiece (.holds _))
  case h_5 => exact .pure (h.pushPiece (near_characterUnder hf _))

theorem beside_repetition (h : r.Within same f more w) {least : Nat} {most : Option Nat} (hmost : ∀ m ∈ most, least ≤ m) :
    Beside (Reader.Within same f more) (repetition r least most) (repetition w least most) t := by
  refine (beside_present (h.repeatLast? hmost false)).bind fun _ _ _ _ => (Beside.accept (by decide)).bind ?_
  rintro marked _ _ rfl
  exact beside_present (h.repeatLast? hmost marked)

/-! ## Parts -/

theorem beside_part (h : r.Within same f more w) {c : Char} (hc : c = ')' → r.outer ≠ []) :
    Beside (Reader.Within same f more) (part r c) (part w c) t ∨ LeavesBrace r w c t := by
  by_cases hescape : c = '\\'
  · subst hescape
    exact beside_primitive_escape h
  refine .inl ?_
  unfold part
  split
  case h_1 => exact beside_group h
  case h_2 => exact beside_present (h.closeGroup? (hc rfl))
  case h_3 => exact .pure h.branch
  case h_4 =>
    exact (beside_bracket h.flags).bind fun _ _ _ hp =>
      .pure (h.pushPiece (.one (fun hs => by rw [hp.eq hs]) hp.depth))
  case h_5 => exact beside_repetition h (by simp)
  case h_6 => exact beside_repetition h (by simp)
  case h_7 => exact beside_repetition h (by simp)
  case h_8 =>
    refine (beside_counts h.flags).bind ?_
    rintro ⟨least, most, marked⟩ _ _ ⟨rfl, hmost⟩
    exact beside_present (h.repeatLast? hmost marked)
  case h_9 => exact beside_primitive h hescape

end DependencyEvidence.Regex
