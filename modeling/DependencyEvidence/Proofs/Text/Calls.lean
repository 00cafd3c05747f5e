import DependencyEvidence.Proofs.Text.Passes
import DependencyEvidence.Proofs.Text.TokenLists
import Mathlib.Data.List.Induction

/-!
# Streams under calls

A stream is used by two calls, in any order: one takes a token, and the other reports the increment that trails the
last one. Over a replayed list, under any stack of filters, the answers depend on three things only
(`next_finish_after`): the list that the filters make of the source, the number of tokens that have been asked for, and
whether the end has been reported since there were none left.

`Passage` is what the calls so far leave of a stream. It holds at the start (`passage_stacked`), every call passes it on
(`Passage.next`, `Passage.finish`), and the answers are read off it.
-/

namespace DependencyEvidence

/-! ## Filters on tokens and on lists -/

theorem fragmentsAfter_map_token (skipped : Nat) (l : List Spaced) :
    fragmentsAfter (.ofNat skipped) (l.map Spaced.token) =
      ((Spaced.split skipped l).1.map Spaced.token, .ofNat (Spaced.split skipped l).2) := by
  induction l generalizing skipped with
  | nil => rfl
  | cons t rest ih =>
    rw [List.map_cons, fragmentsAfter, Spaced.split, Token.fragments, Spaced.token, Text.runs_not_alphanumeric,
      fragmentsOf]
    cases Text.alphanumericRuns t.term.toList with
    | nil =>
      have hsum : UInt32.ofNat (skipped + t.distance) = .ofNat skipped + .ofNat t.distance := UInt32.ofNat_add _ _
      have hrest := ih (skipped + t.distance)
      rw [hsum] at hrest
      exact hrest
    | cons part parts =>
      have hfirst : UInt32.ofNat (t.distance + skipped) = .ofNat t.distance + .ofNat skipped := UInt32.ofNat_add _ _
      have hrest : fragmentsAfter 0 (rest.map Spaced.token) = _ := ih 0
      simp only [List.map_cons, hrest, ← hfirst, List.map_append, List.map_map]
      rfl

theorem pairsAfter_some (t : Spaced) (l : List Spaced) :
    t.token :: pairsAfter (some t.term) (l.map Spaced.token) = (Spaced.pair (t :: l)).map Spaced.token := by
  induction l generalizing t with
  | nil => rfl
  | cons u rest ih =>
    rw [List.map_cons, pairsAfter, Spaced.pair, List.map_cons, List.map_cons, ← ih u]
    rfl

theorem pairsAfter_map_token (l : List Spaced) :
    pairsAfter none (l.map Spaced.token) = (Spaced.pair l).map Spaced.token := by
  cases l with
  | nil => rfl
  | cons t rest => exact pairsAfter_some t rest

namespace Stream

variable {s : Stream} {l : List Spaced}

/-- One more filter, that holds nothing yet, does to the tokens to come what it does to lists. -/
theorem rest_under (f : TokenFilter) (h : s.rest = l.map Spaced.token) :
    (s.under f).rest = (f.through l).1.map Spaced.token ∧ (s.under f).carry = s.carry + .ofNat (f.through l).2 := by
  cases f with
  | fragments =>
    have hfragments : fragmentsAfter 0 s.rest = _ := h ▸ fragmentsAfter_map_token 0 l
    rw [under, rest, carry, hfragments]
    exact ⟨rfl, rfl⟩
  | lowercase =>
    refine ⟨?_, (UInt32.add_zero _).symm⟩
    rw [under, rest, h, List.map_map, TokenFilter.through, List.map_map]
    rfl
  | pairs =>
    refine ⟨?_, (UInt32.add_zero _).symm⟩
    rw [under, rest, h, pairsAfter_map_token]
    rfl

theorem rest_stacked (filters : List TokenFilter) (h : s.rest = l.map Spaced.token) :
    (s.stacked filters).rest = (TokenFilter.allThrough filters l).1.map Spaced.token ∧
      (s.stacked filters).carry = s.carry + .ofNat (TokenFilter.allThrough filters l).2 := by
  induction filters generalizing s l with
  | nil => exact ⟨h, (UInt32.add_zero _).symm⟩
  | cons f filters ih =>
    obtain ⟨hrest, hcarry⟩ := rest_under f h
    obtain ⟨hall, hcarries⟩ := ih hrest
    refine ⟨hall, ?_⟩
    show ((s.under f).stacked filters).carry = _
    rw [hcarries, hcarry, UInt32.add_assoc, ← UInt32.ofNat_add]
    rfl

theorem unskipped_stacked (filters : List TokenFilter) (h : s.Unskipped) : (s.stacked filters).Unskipped := by
  induction filters generalizing s with
  | nil => exact h
  | cons f filters ih =>
    have hunder : (s.under f).Unskipped := by
      cases f with
      | fragments => exact ⟨h, rfl⟩
      | lowercase => exact h
      | pairs => exact h
    exact ih hunder

end Stream

/-! ## Calls -/

/-- What can be asked of a stream. -/
inductive Call where
  /-- The next token. -/
  | next
  /-- The increment that trails the last token. -/
  | finish
deriving DecidableEq, Repr

/-- The stream that a call leaves. -/
def Stream.afterCall (s : Stream) : Call → Stream
  | .next => s.next.2
  | .finish => s.finish.2

/-- The stream that calls leave, one after another. -/
def Stream.after (s : Stream) (calls : List Call) : Stream := calls.foldl afterCall s

theorem Stream.after_append (s : Stream) (calls more : List Call) :
    s.after (calls ++ more) = (s.after calls).after more := List.foldl_append

/-- Whether the calls on a stream of `n` tokens have found that there are no more, and the trailing increment has not
been asked for since the first time that they did. -/
def Due (n : Nat) (calls : List Call) : Prop :=
  ∃ before later, calls = before ++ .next :: later ∧ before.count .next = n ∧ .finish ∉ later

section Due

variable {n : Nat} {calls : List Call}

theorem Due.lt (h : Due n calls) : n < calls.count .next := by
  obtain ⟨before, later, rfl, rfl, -⟩ := h
  simp

theorem due_append_next : Due n (calls ++ [.next]) ↔ calls.count .next = n ∨ Due n calls := by
  constructor
  · rintro ⟨before, later, heq, hn, hlater⟩
    rcases List.eq_nil_or_concat' later with rfl | ⟨later, c, rfl⟩
    · rw [List.append_inj_left' heq rfl]
      exact .inl hn
    · refine .inr ⟨before, later, ?_, hn, fun h => hlater (List.mem_append_left _ h)⟩
      rw [← List.cons_append, ← List.append_assoc] at heq
      exact List.append_inj_left' heq rfl
  · rintro (hn | ⟨before, later, rfl, hn, hlater⟩)
    · exact ⟨calls, [], rfl, hn, List.not_mem_nil⟩
    · exact ⟨before, later ++ [.next], by simp, hn, by simpa using hlater⟩

theorem not_due_append_finish : ¬ Due n (calls ++ [.finish]) := by
  rintro ⟨before, later, heq, -, hlater⟩
  rcases List.eq_nil_or_concat' later with rfl | ⟨later, c, rfl⟩
  · have hlast := List.append_inj_right' heq rfl
    simp at hlast
  · rw [← List.cons_append, ← List.append_assoc] at heq
    have hlast := List.append_inj_right' heq rfl
    simp only [List.cons.injEq, and_true] at hlast
    exact hlater (by simp [hlast])

end Due

/-! ## What the calls leave -/

/-- What calls leave of a stream that had these tokens to come and this carry. -/
structure Passage (tokens : List Token) (carry trailing : UInt32) (calls : List Call) (s : Stream) : Prop where
  trailing : s.origin.finish.1 = trailing
  /-- Up to the last token, as many tokens are gone as have been asked for, and nothing is due. -/
  within : calls.count .next ≤ tokens.length →
    s.rest = tokens.drop (calls.count .next) ∧ s.carry = carry ∧ s.Unskipped
  /-- Behind the last token nothing is left, and what has been skipped is reported once. -/
  beyond : tokens.length < calls.count .next →
    s.Spent ∧ (Due tokens.length calls → s.skipped = carry) ∧ (¬ Due tokens.length calls → s.skipped = 0)

namespace Passage

variable {tokens : List Token} {carry trailing : UInt32} {calls : List Call} {s : Stream}

theorem rest (h : Passage tokens carry trailing calls s) : s.rest = tokens.drop (calls.count .next) := by
  rcases Nat.lt_or_ge tokens.length (calls.count .next) with hcount | hcount
  · rw [Stream.rest_of_spent (h.beyond hcount).1, List.drop_eq_nil_of_le (Nat.le_of_lt hcount)]
  · exact (h.within hcount).1

/-- Asking for a token, also for one that does not come. -/
theorem next (h : Passage tokens carry trailing calls s) :
    Passage tokens carry trailing (calls ++ [.next]) s.next.2 := by
  have hfed := Stream.fed_next s
  have hcount : (calls ++ [Call.next]).count .next = calls.count .next + 1 := by simp
  refine ⟨by rw [hfed.origin, h.trailing], fun hwithin => ?_, fun hbeyond => ?_⟩
  · rw [hcount] at hwithin ⊢
    obtain ⟨hrest, hcarry, hunskipped⟩ := h.within (by omega)
    rw [List.drop_eq_getElem_cons (by omega)] at hrest
    obtain ⟨-, hleft, hstill⟩ := Stream.next_of_rest_cons hrest
    exact ⟨hleft, hfed.carry.trans hcarry, hstill hunskipped⟩
  · rw [hcount] at hbeyond
    have hnil : s.rest = [] := by rw [h.rest, List.drop_eq_nil_of_le (by omega)]
    have hspent := (Stream.next_of_rest_nil hnil).2
    have hskipped : s.next.2.skipped = s.carry := by rw [← Stream.carry_of_spent hspent, hfed.carry]
    refine ⟨hspent, fun hdue => ?_, fun hdue => ?_⟩
    · rw [hskipped]
      rcases Nat.lt_or_ge tokens.length (calls.count .next) with hlt | hge
      · obtain ⟨hbefore, hdues, -⟩ := h.beyond hlt
        rw [Stream.carry_of_spent hbefore]
        exact hdues ((due_append_next.1 hdue).resolve_left (by omega))
      · exact (h.within hge).2.1
    · rw [due_append_next, not_or] at hdue
      obtain ⟨hbefore, -, hnone⟩ := h.beyond (by omega)
      rw [hskipped, Stream.carry_of_spent hbefore, hnone hdue.2]

/-- Asking for the trailing increment, also before the end. -/
theorem finish (h : Passage tokens carry trailing calls s) :
    Passage tokens carry trailing (calls ++ [.finish]) s.finish.2 := by
  obtain ⟨hunskipped, hspent, horigin, -⟩ := Stream.finish_snd s
  have hcount : (calls ++ [Call.finish]).count .next = calls.count .next := by simp
  refine ⟨by rw [horigin, h.trailing], fun hwithin => ?_, fun hbeyond => ?_⟩
  · rw [hcount] at hwithin ⊢
    rw [Stream.finish_of_unskipped (h.within hwithin).2.2]
    exact h.within hwithin
  · rw [hcount] at hbeyond
    exact ⟨hspent (h.beyond hbeyond).1, fun hdue => absurd hdue not_due_append_finish,
      fun _ => Stream.skipped_of_unskipped hunskipped⟩

/-- The answer to the next call for a token. -/
theorem next_fst (h : Passage tokens carry trailing calls s) : s.next.1 = tokens[calls.count .next]? := by
  rw [← List.head?_drop, ← h.rest]
  cases hrest : s.rest with
  | nil => exact (Stream.next_of_rest_nil hrest).1
  | cons t l => exact (Stream.next_of_rest_cons hrest).1

/-- The answer to the next call for the trailing increment. -/
theorem finish_fst (h : Passage tokens carry trailing calls s) :
    (Due tokens.length calls → s.finish.1 = trailing + carry) ∧
      (¬ Due tokens.length calls → s.finish.1 = trailing) := by
  rw [Stream.finish_fst, h.trailing]
  refine ⟨fun hdue => ?_, fun hdue => ?_⟩
  · rw [(h.beyond hdue.lt).2.1 hdue]
  · have hnone : s.skipped = 0 := by
      rcases Nat.lt_or_ge tokens.length (calls.count .next) with hcount | hcount
      · exact (h.beyond hcount).2.2 hdue
      · exact Stream.skipped_of_unskipped (h.within hcount).2.2
    rw [hnone, UInt32.add_zero]

end Passage

section Calls

variable {tokens : List Token} {filters : List TokenFilter} {out : List Spaced × Nat}

theorem passage_stacked (hout : TokenFilter.allThrough filters (tokens.map Token.spaced) = out) (trailing : UInt32) :
    Passage (out.1.map Spaced.token) (.ofNat out.2) trailing [] ((Stream.ofList tokens trailing).stacked filters) := by
  have htokens : (Stream.ofList tokens trailing).rest = (tokens.map Token.spaced).map Spaced.token := by
    rw [List.map_map]
    exact (List.map_id'' Token.token_spaced tokens).symm
  obtain ⟨hrest, hcarry⟩ := Stream.rest_stacked filters htokens
  rw [hout] at hrest hcarry
  refine ⟨?_, fun _ => ⟨hrest, hcarry.trans (UInt32.zero_add _), Stream.unskipped_stacked filters trivial⟩, ?_⟩
  · rw [(Stream.filters_stacked _ filters).2]
    rfl
  · intro h
    simp at h

/-- A run of calls passes the passage on. -/
theorem passage_after (hout : TokenFilter.allThrough filters (tokens.map Token.spaced) = out) (trailing : UInt32)
    (calls : List Call) :
    Passage (out.1.map Spaced.token) (.ofNat out.2) trailing calls
      (((Stream.ofList tokens trailing).stacked filters).after calls) := by
  induction calls using List.reverseRecOn with
  | nil => exact passage_stacked hout trailing
  | append_singleton calls c ih =>
    rw [Stream.after_append]
    cases c with
    | next => exact ih.next
    | finish => exact ih.finish

end Calls

/-- **What any calls on any stack of filters answer.** After `calls`, the next token is the one of the list that the
filters make of the source at the place of the tokens asked for so far, and once there is none, none ever comes. The
trailing increment is that of the source, and the first time after the last token it is the positions that were left
over as well. Numbers that fit into 32 bits are not changed by that (`Spaced.spaced_token`). -/
theorem next_finish_after (tokens : List Token) (trailing : UInt32) (filters : List TokenFilter) (calls : List Call) :
    let s := ((Stream.ofList tokens trailing).stacked filters).after calls
    let out := TokenFilter.allThrough filters (tokens.map Token.spaced)
    s.next.1 = out.1[calls.count .next]?.map Spaced.token ∧
      (s.next.1 = none → ∀ more, (s.after more).next.1 = none) ∧
      (Due out.1.length calls → s.finish.1 = .ofNat (trailing.toNat + out.2)) ∧
      (¬ Due out.1.length calls → s.finish.1 = trailing) := by
  intro s out
  have hout : TokenFilter.allThrough filters (tokens.map Token.spaced) = out := rfl
  have hpassage := passage_after hout trailing
  have hnext : ∀ calls, (((Stream.ofList tokens trailing).stacked filters).after calls).next.1 =
      out.1[calls.count .next]?.map Spaced.token := by
    intro calls
    rw [(hpassage calls).next_fst, List.getElem?_map]
  obtain ⟨hdue, hnot⟩ := (hpassage calls).finish_fst
  rw [List.length_map] at hdue hnot
  refine ⟨hnext calls, fun hnone more => ?_, fun h => ?_, hnot⟩
  · rw [hnext calls, Option.map_eq_none_iff, List.getElem?_eq_none_iff] at hnone
    rw [← Stream.after_append, hnext, Option.map_eq_none_iff, List.getElem?_eq_none_iff, List.count_append]
    omega
  · rw [hdue h, UInt32.ofNat_add, UInt32.ofNat_toNat]

end DependencyEvidence
