import DependencyEvidence.Hints.Pattern
import DependencyEvidence.Proofs.Regex.Reading

/-!
# File name patterns and the expressions they are given by

The text that a file name pattern is given by is put between `^(?:` and `)$` before it is read. What comes of this is
told by what the text spells alone (`Regex.Spells`).

* A text that spells an expression gives a pattern for the whole file name, and a text that spells none is refused, as
  far as the limits for nesting and size go (`FilenamePattern.regex?_spells`). The limits count what is put around the
  text, which makes two levels of nesting (`FilenamePattern.depth_framed`).
* There are two exceptions. Where a text ends in a comment, the comment takes in what is behind, so that the text is
  refused (`Regex.EndsInComment`). And a text may close the group that was opened around it
  (`Regex.Reader.Overcloses`). Such a text spells nothing for itself (`FilenamePattern.parse?_of_overcloses`), but it
  may give a pattern.
-/

namespace DependencyEvidence

namespace Regex

open Scan (Closing)

variable {f g : Flags} {t : List Char} {p : Piece}

/-! ## What a text spells -/

/-- The reader at the start of a text that is read under some flags. -/
def Reader.under (f : Flags) : Reader := { Reader.start with flags := f }

/-- A text spells an expression under some flags. -/
def Spells (f : Flags) (t : List Char) (p : Piece) : Prop := (Reader.under f).read t = some (p, [])

/-- The text spells an expression, and it ends in a comment, which takes in a parenthesis behind it. -/
def EndsInComment (f : Flags) (t : List Char) : Prop := (∃ p, Spells f t p) ∧ ∃ p, Spells f (t ++ [')']) p

/-- An expression is within the limits for nesting and size. -/
def Piece.Bearable (p : Piece) : Prop := p.depth ≤ nestLimit ∧ Automaton.fits p.outline

theorem Reader.read_nil (r : Reader) : r.read [] = r.finish?.map fun p => (p, []) :=
  read_of_nil (skipBlanks_closing _ Scan.closing_nil)

theorem Reader.outer_of_finish? {r : Reader} (h : r.finish? = some p) : r.outer = [] := by
  unfold Reader.finish? at h
  split at h
  · next hempty => exact List.isEmpty_iff.1 hempty
  · cases h

theorem Reader.within_under {same : Prop} (h : f.Near same g) :
    (Reader.under f).Within same .start [] (Reader.under g) :=
  ⟨h, rfl, rfl, .outermost ⟨.nil, .nil⟩ rfl rfl⟩

theorem Reader.Within.read_alone {same : Prop} {f : Flags} {r w : Reader} {u : List Char} (h : r.Within same f [] w)
    (hread : r.read t = some (p, u)) : ∃ q, w.read t = some (q, []) ∧ p.Near same q := by
  obtain ⟨r', w', hwithin, hend, hbehind⟩ := h.read hread
  rw [Reader.read_nil] at hend
  obtain ⟨q, hq, hqp⟩ := Option.map_eq_some_iff.1 hend
  cases hqp
  obtain ⟨houter, hjoined, -, -⟩ := hwithin.finish? hq
  have hw' : w'.read [] = some (w'.group.joined, []) := by
    rw [Reader.read_nil, Reader.finish?, houter]
    rfl
  refine ⟨w'.group.joined, ?_, hjoined⟩
  rcases hbehind with hleft | hright
  · exact (by simpa using (hleft [] Scan.closing_nil).2 : w.read t = w'.read []).trans hw'
  · exact (by simpa using (hright [] Scan.closing_nil).2 : w.read t = w'.read []).trans hw'

theorem Reader.read_under {u : List Char} (h : (Reader.under f).read t = some (p, u)) :
    Spells f t p ∧ p.regex.Bounded := by
  obtain ⟨q, hq, hpq⟩ := (Reader.within_under (Flags.Near.refl f : f.Near True f)).read_alone h
  rw [hpq.eq trivial]
  exact ⟨hq, hpq.bounded.2⟩

/-- A text spells one expression at most. -/
theorem Spells.unique {q : Piece} (hp : Spells f t p) (hq : Spells f t q) : p = q :=
  (Prod.mk.inj (Option.some.inj (hp.symm.trans hq))).1

theorem Spells.bounded (h : Spells f t p) : p.regex.Bounded := (Reader.read_under h).2

/-- Whether case counts does not matter for what is an expression, and not for its nesting. -/
theorem Spells.congr (h : f.Near False g) (hp : Spells f t p) : ∃ q, Spells g t q ∧ p.depth = q.depth := by
  obtain ⟨q, hq, hpq⟩ := (Reader.within_under h).read_alone hp
  exact ⟨q, hq, hpq.depth⟩

theorem parse?_eq_some_iff {e : Regex} : parse? t = some e ↔ ∃ p, Spells .start t p ∧ p.Bearable ∧ p.regex = e := by
  unfold parse?
  cases hread : Reader.start.read t with
  | none =>
    refine iff_of_false (fun h => nomatch h) ?_
    rintro ⟨p, hp, -⟩
    exact absurd (hread.symm.trans hp) (by simp)
  | some x =>
    have hp : Spells .start t x.1 := (Reader.read_under hread).1
    show (if x.1.depth ≤ nestLimit ∧ Automaton.fits x.1.outline then some x.1.regex else none) = some e ↔ _
    constructor
    · intro h
      split at h
      · next hbearable => exact ⟨x.1, hp, hbearable, Option.some.inj h⟩
      · cases h
    · rintro ⟨q, hq, hbearable, rfl⟩
      obtain rfl := hp.unique hq
      exact if_pos hbearable

end Regex

namespace FilenamePattern

open Regex Scan

/-! ## The frame -/

/-- The flags under which the given text is read. -/
def flags (caseSensitive : Bool) : Flags := { Flags.start with ignoreCase := !caseSensitive }

/-- An expression between the ends of the text. -/
def framed (caseSensitive : Bool) (p : Piece) : Piece :=
  .sequence ((if caseSensitive then [] else [Item.flags]) ++
    [.piece (.holds .textStart), .piece (p.grouped none), .piece (.holds .textEnd)])

/-- The frame counts as two levels of nesting: a group in a sequence. -/
theorem depth_framed (caseSensitive : Bool) (p : Piece) : (framed caseSensitive p).depth = p.depth + 2 := by
  cases caseSensitive <;> simp [framed, Piece.sequence, Piece.ofItem, Piece.depthAround, Piece.grouped, Piece.holds,
    Piece.empty]

/-- What has been read before the given text. -/
def before (caseSensitive : Bool) : Group :=
  ⟨none, .start, [], .piece (.holds .textStart) :: if caseSensitive then [] else [.flags]⟩

/-- The reader in front of the given text. -/
def reader (caseSensitive : Bool) : Reader :=
  ⟨flags caseSensitive, [], 0, .opened none (flags caseSensitive), [before caseSensitive]⟩

variable {caseSensitive : Bool} {value : String} {p : Piece}

/-- What stands behind the given text. -/
def ending : List Char := [')', '$']

theorem closing_ending : Closing ending := ⟨fun _ hc => (Option.some.inj hc).symm, by simp [ending]⟩

theorem closing_paren : Closing [')'] := ⟨fun _ hc => (Option.some.inj hc).symm, by simp⟩

/-- What stands in front of the given text is read, and leaves its reader. -/
theorem read_anchored (value : String) (caseSensitive : Bool) :
    Reader.start.read (anchored value caseSensitive) = (reader caseSensitive).read (value.toList ++ ending) := by
  cases caseSensitive with
  | true =>
    show Reader.start.read ('^' :: '(' :: '?' :: ':' :: (value.toList ++ ending)) = _
    rw [Reader.read_of_part (c := '^') rfl rfl, Reader.read_of_part (c := '(') rfl rfl]
    rfl
  | false =>
    show Reader.start.read ('(' :: '?' :: 'i' :: ')' :: '^' :: '(' :: '?' :: ':' :: (value.toList ++ ending)) = _
    rw [Reader.read_of_part (c := '(') rfl rfl, Reader.read_of_part (c := '^') rfl rfl,
      Reader.read_of_part (c := '(') rfl rfl]
    rfl

theorem within_reader (caseSensitive : Bool) :
    (Reader.under (flags caseSensitive)).Within True (flags caseSensitive) [before caseSensitive]
      (reader caseSensitive) :=
  ⟨.refl _, rfl, rfl, .outermost ⟨.nil, .nil⟩ rfl rfl⟩

/-- What stands behind the given text closes the group around it. -/
theorem read_ending {w : Reader} (houter : w.outer = [before caseSensitive]) (hnumber : w.group.number = none)
    (hafter : w.group.flagsAfter = flags caseSensitive) :
    w.read ending = some (framed caseSensitive w.group.joined, []) := by
  obtain ⟨inside, names, groups, g, _⟩ := w
  cases houter
  have hclosed : part ⟨inside, names, groups, g, [before caseSensitive]⟩ ')' ['$'] =
      some (Reader.pushPiece ⟨flags caseSensitive, names, groups, before caseSensitive, []⟩ (g.joined.grouped none),
        ['$']) := by
    rw [← hnumber, ← hafter]
    rfl
  rw [Reader.read_of_part (t := ending) (skipBlanks_closing _ closing_ending) hclosed,
    Reader.read_of_part (c := '$') rfl rfl, Reader.read_nil]
  cases caseSensitive <;> rfl

/-- A text that spells an expression spells it in its frame, or it ends in a comment and nothing is spelled. -/
theorem read_of_spells (h : Spells (flags caseSensitive) value.toList p) :
    (¬ EndsInComment (flags caseSensitive) value.toList ∧
        (reader caseSensitive).read (value.toList ++ ending) = some (framed caseSensitive p, [])) ∨
      EndsInComment (flags caseSensitive) value.toList ∧
        (reader caseSensitive).read (value.toList ++ ending) = none := by
  obtain ⟨r, w, hwithin, hend, hbehind⟩ := (within_reader caseSensitive).read h
  have hfinish : r.finish? = some p := by
    rw [Reader.read_nil] at hend
    obtain ⟨q, hq, heq⟩ := Option.map_eq_some_iff.1 hend
    exact (Prod.mk.inj heq).1 ▸ hq
  obtain ⟨houter, hjoined, hnumber, hafter⟩ := hwithin.finish? hfinish
  rcases hbehind with hleft | hright
  · -- the parenthesis behind the text closes the group around it, and alone it would be refused
    refine .inl ⟨?_, ?_⟩
    · rintro ⟨-, q, hq⟩
      have hrefused : r.read [')'] = none := Reader.read_of_none (skipBlanks_closing _ closing_paren)
        ((part_close_eq_none_iff _).2 (Reader.outer_of_finish? hfinish))
      rw [Spells, (hleft _ closing_paren).1, hrefused] at hq
      cases hq
    · rw [(hleft _ closing_ending).2, read_ending houter hnumber hafter, ← hjoined.eq trivial]
  · -- the comment takes in the parenthesis, so that the group is never closed
    refine .inr ⟨⟨⟨p, h⟩, p, ((hright _ closing_paren).1).trans hend⟩, ?_⟩
    rw [(hright _ closing_ending).2, Reader.read_nil, Reader.finish?, houter]
    rfl

/-- What the text spells with what is put around it. -/
theorem spells_anchored (hcloses : ¬ (Reader.under (flags caseSensitive)).Overcloses value.toList) :
    Spells .start (anchored value caseSensitive) p ↔
      ¬ EndsInComment (flags caseSensitive) value.toList ∧
        ∃ q, Spells (flags caseSensitive) value.toList q ∧ p = framed caseSensitive q := by
  have hstart : Spells .start (anchored value caseSensitive) p ↔
      (reader caseSensitive).read (value.toList ++ ending) = some (p, []) := by
    rw [← read_anchored]
    exact Iff.rfl
  rw [hstart]
  cases hread : (Reader.under (flags caseSensitive)).read value.toList with
  | none =>
    rw [(within_reader caseSensitive).read_eq_none hread hcloses closing_ending (Nat.le_refl 1)]
    refine iff_of_false (fun h => nomatch h) ?_
    rintro ⟨-, q, hq, -⟩
    cases hread.symm.trans hq
  | some x =>
    have hspells : Spells (flags caseSensitive) value.toList x.1 := (Reader.read_under hread).1
    rcases read_of_spells hspells with ⟨hcomment, hread⟩ | ⟨hcomment, hread⟩
    · rw [hread]
      constructor
      · intro h
        exact ⟨hcomment, x.1, hspells, (Prod.mk.inj (Option.some.inj h)).1.symm⟩
      · rintro ⟨-, q, hq, rfl⟩
        rw [hspells.unique hq]
    · rw [hread]
      exact iff_of_false (fun h => nomatch h) fun h => h.1 hcomment

/-! ## Patterns -/

theorem near_flags (caseSensitive : Bool) : (flags caseSensitive).Near False .start :=
  ⟨rfl, rfl, rfl, rfl, rfl, rfl, False.elim⟩

theorem regex?_eq_some_iff {q : FilenamePattern} : regex? value caseSensitive = some q ↔
    ∃ p, Spells .start (anchored value caseSensitive) p ∧ p.Bearable ∧ q = ⟨value, .regex p.regex⟩ := by
  unfold regex?
  rw [Option.map_eq_some_iff]
  constructor
  · rintro ⟨e, he, rfl⟩
    obtain ⟨p, hp, hbearable, rfl⟩ := parse?_eq_some_iff.1 he
    exact ⟨p, hp, hbearable, rfl⟩
  · rintro ⟨p, hp, hbearable, rfl⟩
    exact ⟨p.regex, parse?_eq_some_iff.2 ⟨p, hp, hbearable, rfl⟩, rfl⟩

/-- Between the ends of the text, an expression matches the whole text or nothing. -/
theorem accepts_framed (value : String) (hp : p.regex.Bounded) (fileName : String) :
    accepts ⟨value, .regex (framed caseSensitive p).regex⟩ fileName ↔
      p.regex.Leads fileName.toList 0 fileName.toList.length := by
  cases caseSensitive with
  | true =>
    have hstart : (Regex.holds .textStart).Bounded := trivial
    exact search_between hstart (fun _ _ => leads_textStart_iff) hp
  | false =>
    have hstart : (Regex.andThen .empty (.holds .textStart)).Bounded := ⟨trivial, trivial⟩
    refine search_between hstart (fun i j => ?_) hp
    constructor
    · intro h
      cases h with
      | andThen first second =>
        cases first
        exact leads_textStart_iff.1 second
    · intro h
      exact .andThen (.empty i) (leads_textStart_iff.2 h)

/-- A text that closes no group that it has not opened gives a pattern exactly if it does not end in a comment and
spells an expression that is bearable in its frame. Apart from comments and from the limits, these are the texts that
spell an expression for themselves. The pattern stands for the file names that the expression matches from the first
character to the last. -/
theorem regex?_spells (value : String) (caseSensitive : Bool)
    (hcloses : ¬ (Reader.under (flags caseSensitive)).Overcloses value.toList) :
    ((regex? value caseSensitive).isSome ↔
      ¬ EndsInComment (flags caseSensitive) value.toList ∧
        ∃ p, Spells (flags caseSensitive) value.toList p ∧ (framed caseSensitive p).Bearable) ∧
    (¬ EndsInComment (flags caseSensitive) value.toList →
      (∀ p q, Spells (flags caseSensitive) value.toList p → Spells .start value.toList q →
        ((framed caseSensitive p).Bearable ↔ q.Bearable)) →
      ((regex? value caseSensitive).isSome ↔ (parse? value.toList).isSome)) ∧
    ∀ r, regex? value caseSensitive = some r →
      ∃ p, Spells (flags caseSensitive) value.toList p ∧
        ∀ fileName, r.accepts fileName ↔ p.regex.Leads fileName.toList 0 fileName.toList.length := by
  have hbuilt : (regex? value caseSensitive).isSome ↔ ¬ EndsInComment (flags caseSensitive) value.toList ∧
      ∃ p, Spells (flags caseSensitive) value.toList p ∧ (framed caseSensitive p).Bearable := by
    rw [Option.isSome_iff_exists]
    constructor
    · rintro ⟨r, hr⟩
      obtain ⟨_, hp, hbearable, -⟩ := regex?_eq_some_iff.1 hr
      obtain ⟨hcomment, q, hq, rfl⟩ := (spells_anchored hcloses).1 hp
      exact ⟨hcomment, q, hq, hbearable⟩
    · rintro ⟨hcomment, p, hp, hbearable⟩
      exact ⟨_, regex?_eq_some_iff.2 ⟨_, (spells_anchored hcloses).2 ⟨hcomment, p, hp, rfl⟩, hbearable, rfl⟩⟩
  refine ⟨hbuilt, fun hcomment hlimits => ?_, fun r hr => ?_⟩
  · rw [hbuilt, Option.isSome_iff_exists]
    constructor
    · rintro ⟨-, p, hp, hbearable⟩
      obtain ⟨q, hq, -⟩ := hp.congr (near_flags caseSensitive)
      exact ⟨q.regex, parse?_eq_some_iff.2 ⟨q, hq, (hlimits p q hp hq).1 hbearable, rfl⟩⟩
    · rintro ⟨e, he⟩
      obtain ⟨q, hq, hbearable, -⟩ := parse?_eq_some_iff.1 he
      obtain ⟨p, hp, -⟩ := hq.congr (near_flags caseSensitive).symm
      exact ⟨hcomment, p, hp, (hlimits p q hp hq).2 hbearable⟩
  · obtain ⟨_, hp, -, rfl⟩ := regex?_eq_some_iff.1 hr
    obtain ⟨-, q, hq, rfl⟩ := (spells_anchored hcloses).1 hp
    exact ⟨q, hq, fun fileName => accepts_framed value hq.bounded fileName⟩

/-- The theorem at a text without groups, which gives a pattern and so spells an expression. -/
theorem regex?_spells_either :
    ¬ (Reader.under (flags true)).Overcloses "a|b".toList ∧ ¬ EndsInComment (flags true) "a|b".toList ∧
      ∃ p, Spells (flags true) "a|b".toList p ∧ (framed true p).Bearable := by
  have hcloses : ¬ (Reader.under (flags true)).Overcloses "a|b".toList := fun h =>
    absurd h.read_eq_none (Option.isSome_iff_ne_none.1 (by decide +kernel))
  exact ⟨hcloses, (regex?_spells "a|b" true hcloses).1.1 (by decide +kernel)⟩

/-- A text that closes the group around it gives a pattern without spelling an expression, and the pattern stands for
more than whole file names. A text that spells an expression and ends in a comment gives no pattern. -/
theorem regex?_spliced :
    ((parse? "a)|(b".toList).isNone ∧ (regex? "a)|(b" true).any fun r => r.accepts "axyz") ∧
      (parse? "(?x)a#b".toList).isSome ∧ (regex? "(?x)a#b" true).isNone := by
  decide +kernel

/-- A text that closes a group that it has not opened spells nothing for itself. -/
theorem parse?_of_overcloses (h : (Reader.under (flags caseSensitive)).Overcloses value.toList) :
    parse? value.toList = none := by
  cases he : parse? value.toList with
  | none => rfl
  | some e =>
    obtain ⟨q, hq, -⟩ := parse?_eq_some_iff.1 he
    obtain ⟨p, hp, -⟩ := hq.congr (near_flags caseSensitive).symm
    exact absurd (h.read_eq_none.symm.trans hp) (by simp)

end FilenamePattern

end DependencyEvidence
