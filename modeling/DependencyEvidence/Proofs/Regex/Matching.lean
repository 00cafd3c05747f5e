import DependencyEvidence.Regex.Matching
import Mathlib.Data.Nat.Bitwise
import Mathlib.Logic.Function.Iterate

/-!
# Sets of places and single matches

Following all places at once finds what single matches find: a place is in `r.advance text from_` if and only if a match of
`r` leads there from a place of `from_` (`testBit_advance`), and `r.search text` tells whether there is a match at all
(`search_iff`).

A repetition without a bound is followed for one round more than the text has characters. That is enough, because copies
that take nothing can be left out, and every other one takes a character (`Copies.exists_le`).

Expressions from patterns have no repetition that allows fewer copies than it needs (`Bounded`). For one that does, a set of
places would still be led through the copies that it needs.
-/

namespace DependencyEvidence.Regex

variable {text : List Char} {r s : Regex} {i j k n from_ least : Nat} {most : Option Nat}

/-- Every repetition allows as many copies as it needs. -/
def Bounded : Regex → Prop
  | .empty => True
  | .one _ => True
  | .holds _ => True
  | .andThen r s => r.Bounded ∧ s.Bounded
  | .either r s => r.Bounded ∧ s.Bounded
  | .repeated r least most => r.Bounded ∧ ∀ m ∈ most, least ≤ m

/-! ## Copies -/

/-- So many matches of an expression, one after another. -/
def Copies (text : List Char) (r : Regex) : Nat → Nat → Nat → Prop
  | 0, i, j => i = j
  | n + 1, i, j => ∃ k, Leads text r i k ∧ Copies text r n k j

theorem Copies.append (hi : Copies text r n i j) {m : Nat} (hj : Copies text r m j k) : Copies text r (n + m) i k := by
  induction n generalizing i with
  | zero => rw [Nat.zero_add, show i = j from hi]; exact hj
  | succ n ih =>
    obtain ⟨l, hl, hrest⟩ := hi
    rw [Nat.succ_add]
    exact ⟨l, hl, ih hrest⟩

theorem Copies.split {m : Nat} (h : Copies text r (n + m) i k) : ∃ j, Copies text r n i j ∧ Copies text r m j k := by
  induction n generalizing i with
  | zero => exact ⟨i, rfl, by rwa [Nat.zero_add] at h⟩
  | succ n ih =>
    rw [Nat.succ_add] at h
    obtain ⟨l, hl, hrest⟩ := h
    obtain ⟨j, hj, hk⟩ := ih hrest
    exact ⟨j, ⟨l, hl, hj⟩, hk⟩

/-- A repetition is a number of copies within its bounds. -/
theorem leads_repeated_iff :
    Leads text (.repeated r least most) i j ↔ ∃ n, least ≤ n ∧ (∀ m ∈ most, n ≤ m) ∧ Copies text r n i j := by
  constructor
  · intro h
    generalize hx : Regex.repeated r least most = x at h
    induction h generalizing least most with
    | stop i => cases hx; exact ⟨0, le_rfl, fun m _ => Nat.zero_le m, rfl⟩
    | again room first more _ ih =>
      cases hx
      obtain ⟨n, hleast, hmost, hcopies⟩ := ih rfl
      refine ⟨n + 1, by omega, fun m hm => ?_, _, first, hcopies⟩
      have hroom : m ≠ 0 := by
        rintro rfl
        exact room hm
      have := hmost (m - 1) (by rw [Option.mem_def.1 hm]; rfl)
      omega
    | _ => cases hx
  · rintro ⟨n, hleast, hmost, hcopies⟩
    induction n generalizing least most i with
    | zero =>
      obtain rfl : least = 0 := by omega
      rw [show i = j from hcopies]
      exact .stop j
    | succ n ih =>
      obtain ⟨k, hfirst, hrest⟩ := hcopies
      refine .again ?_ hfirst (ih (by omega) ?_ hrest)
      · rintro rfl
        exact absurd (hmost 0 rfl) (by omega)
      · rintro m hm
        obtain ⟨l, hl, rfl⟩ := Option.mem_map.1 hm
        have := hmost l hl
        omega

/-! ## How far a match leads -/

/-- A match leads forwards, and not beyond the end of the text. -/
theorem Leads.le (h : Leads text r i j) : i ≤ j ∧ (i = j ∨ j ≤ text.length) := by
  induction h with
  | one at_i _ =>
    have := (List.getElem?_eq_some_iff.1 at_i).1
    omega
  | andThen _ _ ih₁ ih₂ => omega
  | again _ _ _ ih₁ ih₂ => omega
  | left _ ih => exact ih
  | right _ ih => exact ih
  | empty => exact ⟨le_rfl, .inl rfl⟩
  | holds => exact ⟨le_rfl, .inl rfl⟩
  | stop => exact ⟨le_rfl, .inl rfl⟩

theorem Copies.le (h : Copies text r n i j) : i ≤ j ∧ (i = j ∨ j ≤ text.length) := by
  induction n generalizing i with
  | zero => exact ⟨le_of_eq h, .inl h⟩
  | succ n ih =>
    obtain ⟨k, hk, hrest⟩ := h
    have := hk.le
    have := ih hrest
    omega

/-- Copies that take nothing can be left out. -/
theorem Copies.exists_le (h : Copies text r n i j) : ∃ m ≤ j - i, Copies text r m i j := by
  induction n generalizing i with
  | zero => exact ⟨0, Nat.zero_le _, h⟩
  | succ n ih =>
    obtain ⟨k, hk, hrest⟩ := h
    obtain ⟨m, hm, hcopies⟩ := ih hrest
    have hle := hk.le.1
    have hle' := hrest.le.1
    rcases Nat.eq_or_lt_of_le hle with rfl | hlt
    · exact ⟨m, hm, hcopies⟩
    · exact ⟨m + 1, by omega, k, hk, hcopies⟩

/-! ## Sets of places -/

theorem testBit_ofBits (l : List Bool) (i : Nat) : (ofBits l).testBit i = l[i]?.getD false := by
  induction l generalizing i with
  | nil => simp [ofBits]
  | cons b rest ih =>
    have hbit : 2 * ofBits rest + b.toNat = Nat.bit b (ofBits rest) := (Nat.bit_val b _).symm
    rw [ofBits, hbit]
    cases i with
    | zero => simp
    | succ i => rw [Nat.testBit_bit_succ, ih, List.getElem?_cons_succ]

theorem repeatedly_eq {α : Type} [DecidableEq α] (f : α → α) (n : Nat) (a : α) : repeatedly f n a = f^[n] a := by
  induction n generalizing a with
  | zero => rfl
  | succ n ih =>
    rw [repeatedly]
    split
    · next h => exact (Function.iterate_fixed h (n + 1)).symm
    · exact ih (f a)

/-- Where so many copies lead, if it is known where one does. -/
theorem testBit_iterate_advance
    (ih : ∀ from_ j, (r.advance text from_).testBit j ↔ ∃ i, from_.testBit i ∧ Leads text r i j) :
    ((r.advance text)^[n] from_).testBit j ↔ ∃ i, from_.testBit i ∧ Copies text r n i j := by
  induction n generalizing from_ with
  | zero => simp [Copies]
  | succ n ihn =>
    rw [Function.iterate_succ_apply, ihn]
    simp only [ih, Copies]
    constructor
    · rintro ⟨k, ⟨i, hi, hk⟩, hj⟩
      exact ⟨i, hi, k, hk, hj⟩
    · rintro ⟨i, hi, k, hk, hj⟩
      exact ⟨k, ⟨i, hi, hk⟩, hj⟩

/-- Where at most so many copies lead. -/
theorem testBit_iterate_more
    (ih : ∀ from_ j, (r.advance text from_).testBit j ↔ ∃ i, from_.testBit i ∧ Leads text r i j) :
    ((fun reached => reached ||| r.advance text reached)^[n] from_).testBit j ↔
      ∃ m ≤ n, ∃ i, from_.testBit i ∧ Copies text r m i j := by
  induction n generalizing from_ with
  | zero => simp [Copies]
  | succ n ihn =>
    rw [Function.iterate_succ_apply, ihn]
    simp only [Nat.testBit_or, Bool.or_eq_true, ih]
    constructor
    · rintro ⟨m, hm, k, hk | ⟨i, hi, hk⟩, hj⟩
      · exact ⟨m, by omega, k, hk, hj⟩
      · exact ⟨m + 1, by omega, i, hi, k, hk, hj⟩
    · rintro ⟨m, hm, i, hi, hj⟩
      cases m with
      | zero => exact ⟨0, Nat.zero_le _, i, .inl hi, hj⟩
      | succ m =>
        obtain ⟨k, hk, hj⟩ := hj
        exact ⟨m, by omega, k, .inr ⟨i, hi, hk⟩, hj⟩

/-- The places that an expression leads to from a set of places are those where its matches end. -/
theorem testBit_advance (hr : r.Bounded) :
    (r.advance text from_).testBit j ↔ ∃ i, from_.testBit i ∧ Leads text r i j := by
  induction r generalizing from_ j with
  | empty =>
    constructor
    · exact fun h => ⟨j, h, .empty j⟩
    · rintro ⟨i, hi, h⟩
      cases h
      exact hi
  | one set =>
    rw [advance, Nat.testBit_shiftLeft, Nat.testBit_and, testBit_ofBits, List.getElem?_map]
    constructor
    · intro h
      obtain ⟨⟨hj, hfrom⟩, hset⟩ : (1 ≤ j ∧ from_.testBit (j - 1)) ∧ (text[j - 1]?.map set.mem).getD false := by
        simpa [and_assoc] using h
      cases hc : text[j - 1]? with
      | none => rw [hc] at hset; cases hset
      | some c =>
        rw [hc] at hset
        refine ⟨j - 1, hfrom, ?_⟩
        have hone := Leads.one hc hset
        rwa [Nat.sub_add_cancel hj] at hone
    · rintro ⟨i, hi, h⟩
      cases h with
      | one at_i mem => simp [hi, at_i, mem]
  | holds a =>
    rw [advance, Nat.testBit_and, testBit_ofBits, List.getElem?_map]
    constructor
    · intro h
      rw [Bool.and_eq_true] at h
      obtain ⟨hfrom, hholds⟩ := h
      cases hp : (places text)[j]? with
      | none => rw [hp] at hholds; cases hholds
      | some p =>
        rw [hp] at hholds
        exact ⟨j, hfrom, .holds hp hholds⟩
    · rintro ⟨i, hi, h⟩
      cases h with
      | holds at_i holds => simp [hi, at_i, holds]
  | andThen r s ihr ihs =>
    rw [advance, ihs hr.2]
    simp only [ihr hr.1]
    constructor
    · rintro ⟨k, ⟨i, hi, hk⟩, hj⟩
      exact ⟨i, hi, .andThen hk hj⟩
    · rintro ⟨i, hi, h⟩
      cases h with
      | andThen first second => exact ⟨_, ⟨i, hi, first⟩, second⟩
  | either r s ihr ihs =>
    rw [advance, Nat.testBit_or, Bool.or_eq_true, ihr hr.1, ihs hr.2]
    constructor
    · rintro (⟨i, hi, h⟩ | ⟨i, hi, h⟩)
      · exact ⟨i, hi, .left h⟩
      · exact ⟨i, hi, .right h⟩
    · rintro ⟨i, hi, h⟩
      cases h with
      | left h => exact .inl ⟨i, hi, h⟩
      | right h => exact .inr ⟨i, hi, h⟩
  | repeated r least most ih =>
    replace ih : ∀ from_ j, (r.advance text from_).testBit j ↔ ∃ i, from_.testBit i ∧ Leads text r i j := fun _ _ => ih hr.1
    simp only [leads_repeated_iff]
    cases most with
    | some m =>
      have hroom : least ≤ m := hr.2 m rfl
      simp only [advance, repeatedly_eq, testBit_iterate_more ih, testBit_iterate_advance ih]
      constructor
      · rintro ⟨n, hn, k, ⟨i, hi, hk⟩, hj⟩
        exact ⟨i, hi, least + n, by omega, fun l hl => by cases hl; omega, hk.append hj⟩
      · rintro ⟨i, hi, n, hleast, hmost, h⟩
        have hn : n ≤ m := hmost m rfl
        obtain ⟨k, hk, hj⟩ := Copies.split (n := least) (m := n - least) (by rwa [Nat.add_sub_cancel' hleast])
        exact ⟨n - least, by omega, k, ⟨i, hi, hk⟩, hj⟩
    | none =>
      simp only [advance, repeatedly_eq, testBit_iterate_more ih, testBit_iterate_advance ih]
      constructor
      · rintro ⟨n, hn, k, ⟨i, hi, hk⟩, hj⟩
        exact ⟨i, hi, least + n, by omega, by simp, hk.append hj⟩
      · rintro ⟨i, hi, n, hleast, -, h⟩
        obtain ⟨k, hk, hj⟩ := Copies.split (n := least) (m := n - least) (by rwa [Nat.add_sub_cancel' hleast])
        obtain ⟨m, hm, hj⟩ := hj.exists_le
        have hend := hj.le
        exact ⟨m, by omega, k, ⟨i, hi, hk⟩, hj⟩

/-- Searching finds a match wherever there is one. -/
theorem search_iff (hr : r.Bounded) : r.search text ↔ ∃ i ≤ text.length, ∃ j, Leads text r i j := by
  have hplaces : ∀ i, (Nat.pow 2 (text.length + 1) - 1).testBit i = decide (i < text.length + 1) :=
    fun i => Nat.testBit_two_pow_sub_one _ i
  rw [search, bne_iff_ne]
  constructor
  · intro h
    obtain ⟨j, hj⟩ := Nat.exists_testBit_of_ne_zero h
    obtain ⟨i, hi, h⟩ := (testBit_advance hr).1 hj
    exact ⟨i, by simpa [hplaces, Nat.lt_succ_iff] using hi, j, h⟩
  · rintro ⟨i, hi, j, h⟩ hzero
    have hbit : (Nat.pow 2 (text.length + 1) - 1).testBit i := by simpa [hplaces, Nat.lt_succ_iff] using hi
    have hj := (testBit_advance hr).2 ⟨i, hbit, h⟩
    rw [hzero, Nat.zero_testBit] at hj
    cases hj

/-! ## The ends of a text -/

theorem getElem?_placesAfter (before : Option Char) (text : List Char) (i : Nat) :
    (placesAfter before text)[i]? =
      if i ≤ text.length then some (if i = 0 then before else text[i - 1]?, text[i]?) else none := by
  induction text generalizing before i with
  | nil => cases i <;> simp [placesAfter]
  | cons c rest ih =>
    cases i with
    | zero => simp [placesAfter]
    | succ i =>
      rw [placesAfter, List.getElem?_cons_succ, ih]
      cases i <;> simp

/-- What an assertion asks of a place. -/
theorem leads_holds_iff {a : Assertion} :
    Leads text (.holds a) i j ↔
      i = j ∧ i ≤ text.length ∧ a.holdsBetween (if i = 0 then none else text[i - 1]?) text[i]? := by
  constructor
  · intro h
    cases h with
    | holds at_i holds =>
      rw [places, getElem?_placesAfter] at at_i
      split at at_i
      · next hi =>
        cases at_i
        exact ⟨rfl, hi, holds⟩
      · cases at_i
  · rintro ⟨rfl, hi, holds⟩
    exact .holds (by rw [places, getElem?_placesAfter, if_pos hi]) holds

/-- A text starts at its first place. -/
theorem leads_textStart_iff : Leads text (.holds .textStart) i j ↔ i = 0 ∧ j = 0 := by
  rw [leads_holds_iff, Assertion.holdsBetween]
  split
  · next hi => simp [hi, eq_comm]
  · next hi =>
    simp only [hi, false_and, iff_false, Option.isNone_iff_eq_none, List.getElem?_eq_none_iff]
    omega

/-- A text ends at its last place. -/
theorem leads_textEnd_iff : Leads text (.holds .textEnd) i j ↔ i = text.length ∧ j = text.length := by
  rw [leads_holds_iff, Assertion.holdsBetween, Option.isNone_iff_eq_none, List.getElem?_eq_none_iff]
  omega

/-- An expression between the ends of a text is found if it matches the whole text. -/
theorem search_between {start : Regex} (hstart : start.Bounded)
    (hleads : ∀ i j, Leads text start i j ↔ i = 0 ∧ j = 0) (hr : r.Bounded) :
    (Regex.andThen (.andThen start r) (.holds .textEnd)).search text ↔ Leads text r 0 text.length := by
  have hbounded : (Regex.andThen (.andThen start r) (.holds .textEnd)).Bounded := ⟨⟨hstart, hr⟩, trivial⟩
  rw [search_iff hbounded]
  constructor
  · rintro ⟨i, -, j, h⟩
    cases h with
    | andThen first second =>
      cases first with
      | andThen first inner =>
        obtain ⟨rfl, rfl⟩ := (hleads _ _).1 first
        obtain ⟨rfl, rfl⟩ := leads_textEnd_iff.1 second
        exact inner
  · intro h
    exact ⟨0, Nat.zero_le _, text.length, .andThen (.andThen ((hleads 0 0).2 ⟨rfl, rfl⟩) h)
      (leads_textEnd_iff.2 ⟨rfl, rfl⟩)⟩

end DependencyEvidence.Regex
