import DependencyEvidence.Text.Runs
import Std.Data.TreeMap

/-!
# Sets of code points

A set of code points is an ascending array of closed intervals. The large tables of this library are written as text,
one interval or one point after another in hexadecimal (`41-5A 5F 61-7A`), and read by `CodeSet.ofText`.

* `CodeSet.mem`: membership, by halving the array.
* `inIntervals`: membership in a list of intervals, for the short tables that proofs evaluate.
* `CodeSet.ofIntervals`: the set of intervals in any order. What it joins covers the same points (`covered_joined`), and
  lies apart (`apart_joined`).
-/

namespace DependencyEvidence.Unicode

/-- Whether a character lies in one of the closed intervals. -/
def inIntervals (intervals : List (Nat × Nat)) (c : Char) : Bool :=
  intervals.any fun i => i.1 ≤ c.toNat && c.toNat ≤ i.2

/-- A set of code points: closed intervals in ascending order. -/
structure CodeSet where
  intervals : Array (Nat × Nat)
deriving Inhabited, DecidableEq

namespace CodeSet

/-! ## Reading a table -/

/-- The value of a hexadecimal digit; any other character counts as zero. -/
def hexDigit (c : Char) : Nat :=
  if '0' ≤ c ∧ c ≤ '9' then c.toNat - '0'.toNat
  else if 'A' ≤ c ∧ c ≤ 'F' then c.toNat - 'A'.toNat + 10
  else 0

/-- The number that the digits spell. -/
def hexNumber (digits : List Char) : Nat := digits.foldl (fun n c => 16 * n + hexDigit c) 0

/-- The interval spelled `41-5A`, or `5F` for a single point. -/
def intervalOfText (text : List Char) : Nat × Nat :=
  let first := text.takeWhile (· ≠ '-')
  match text.dropWhile (· ≠ '-') with
  | _ :: last => (hexNumber first, hexNumber last)
  | [] => (hexNumber first, hexNumber first)

/-- The set that a table's text spells. -/
def ofText (text : String) : CodeSet where
  intervals := ((Text.runs (fun c => c == ' ' || c == '\n') text.toList).map intervalOfText).toArray

/-! ## Membership -/

/-- Whether an interval with an index in `lo ≤ i < hi` holds the point. -/
def memBetween (s : Array (Nat × Nat)) (n lo hi : Nat) : Bool :=
  if lo < hi then
    let mid := (lo + hi) / 2
    match s[mid]? with
    | none => false
    | some (first, last) =>
      if n < first then memBetween s n lo mid
      else if last < n then memBetween s n (mid + 1) hi
      else true
  else false
termination_by hi - lo

/-- Whether the set holds the character. -/
def mem (s : CodeSet) (c : Char) : Bool := memBetween s.intervals c.toNat 0 s.intervals.size

/-! ## Union and complement -/

/-- Joins intervals, ascending by their first points, that overlap or touch. -/
def joined : List (Nat × Nat) → List (Nat × Nat)
  | [] => []
  | [i] => [i]
  | i :: j :: rest => if j.1 ≤ i.2 + 1 then joined ((i.1, max i.2 j.2) :: rest) else i :: joined (j :: rest)
termination_by l => l.length

/-- Joining moves no point in or out. -/
theorem covered_joined {l : List (Nat × Nat)} (h : l.Pairwise (·.1 ≤ ·.1)) (n : Nat) :
    (∃ i ∈ joined l, i.1 ≤ n ∧ n ≤ i.2) ↔ ∃ i ∈ l, i.1 ≤ n ∧ n ≤ i.2 := by
  fun_induction joined l with
  | case1 => rfl
  | case2 i => rfl
  | case3 i j rest touching ih =>
    simp only [List.pairwise_cons, List.mem_cons] at h
    rw [ih (List.pairwise_cons.2 ⟨fun k hk => h.1 k (.inr hk), h.2.2⟩)]
    have hij : i.1 ≤ j.1 := h.1 j (.inl rfl)
    simp only [List.mem_cons, exists_eq_or_imp]
    rw [← or_assoc]
    exact or_congr_left (by omega)
  | case4 i j rest apart ih =>
    have ih := ih (List.pairwise_cons.1 h).2
    simp only [List.mem_cons, exists_eq_or_imp] at ih ⊢
    rw [ih]

/-- A joined interval starts where some interval starts. -/
theorem exists_first_of_mem_joined {l : List (Nat × Nat)} {k : Nat × Nat} (h : k ∈ joined l) : ∃ i ∈ l, k.1 = i.1 := by
  fun_induction joined l with
  | case1 => simp at h
  | case2 i => exact ⟨i, by simp, by simp_all⟩
  | case3 i j rest _ ih =>
    obtain ⟨m, hm, e⟩ := ih h
    rcases List.mem_cons.1 hm with rfl | hm
    · exact ⟨i, by simp, e⟩
    · exact ⟨m, by simp [hm], e⟩
  | case4 i j rest _ ih =>
    rcases List.mem_cons.1 h with rfl | h
    · exact ⟨k, by simp, rfl⟩
    · obtain ⟨m, hm, e⟩ := ih h
      exact ⟨m, List.mem_cons_of_mem _ hm, e⟩

/-- Joined intervals lie apart. -/
theorem apart_joined {l : List (Nat × Nat)} (h : l.Pairwise (·.1 ≤ ·.1)) :
    (joined l).Pairwise (fun i j => i.2 + 1 < j.1) := by
  fun_induction joined l with
  | case1 => simp
  | case2 => simp
  | case3 i j rest _ ih =>
    simp only [List.pairwise_cons, List.mem_cons] at h
    exact ih (List.pairwise_cons.2 ⟨fun k hk => h.1 k (.inr hk), h.2.2⟩)
  | case4 i j rest far ih =>
    have tail := (List.pairwise_cons.1 h).2
    refine List.pairwise_cons.2 ⟨fun k hk => ?_, ih tail⟩
    obtain ⟨m, hm, e⟩ := exists_first_of_mem_joined hk
    have hjm : j.1 ≤ m.1 := by
      rcases List.mem_cons.1 hm with rfl | hm
      · exact Nat.le_refl _
      · exact (List.pairwise_cons.1 tail).1 m hm
    omega

/-- Intervals, ascending by their first points. Of those that start at the same point the longest is left. -/
def ascending (intervals : List (Nat × Nat)) : List (Nat × Nat) :=
  let lasts : Std.TreeMap Nat Nat := intervals.foldl (fun t i => t.insert i.1 (max i.2 (t.getD i.1 0))) {}
  lasts.toList

/-- The set of the points that some interval holds. -/
def ofIntervals (intervals : List (Nat × Nat)) : CodeSet where
  intervals := (joined (ascending intervals)).toArray

/-- The points that some of the sets hold. -/
def union (sets : List CodeSet) : CodeSet := ofIntervals (sets.flatMap (·.intervals.toList))

/-- The gaps between intervals, from the point `n` on. -/
def gaps (n : Nat) : List (Nat × Nat) → List (Nat × Nat)
  | [] => if n ≤ 0x10FFFF then [(n, 0x10FFFF)] else []
  | i :: rest => if n < i.1 then (n, i.1 - 1) :: gaps (i.2 + 1) rest else gaps (i.2 + 1) rest

/-- The points that the set does not hold. -/
def complement (s : CodeSet) : CodeSet where
  intervals := (gaps 0 s.intervals.toList).toArray

/-- The points that both sets hold. -/
def inter (s t : CodeSet) : CodeSet := (union [s.complement, t.complement]).complement

/-- Whether the set holds no point beyond ASCII. -/
def isAscii (s : CodeSet) : Bool := s.intervals.back?.all (·.2 < 0x80)

/-- The point of a set that has a single one. -/
def point? (s : CodeSet) : Option Nat :=
  match s.intervals.toList with
  | [(first, last)] => if first = last then some first else none
  | _ => none

end CodeSet

end DependencyEvidence.Unicode
