import DependencyEvidence.Text.Stream
import Mathlib.Data.List.Basic

/-!
# Passes over streams

Wherever a pass over a stream stands, two things are settled: the tokens that are still to come (`Stream.rest`) and the
positions that are left over when they have come (`Stream.carry`). Both are read off the state by functions on lists.

`Stream.Fed` says all that feeding a consumer can do to a stream, and `Stream.fed_feed` that it does so: the consumer
gets what it would get from the list of the tokens to come, and the stream goes on where it stopped. From this one
statement follow

* what taking a token does (`next_of_rest_cons`, `next_of_rest_nil`) and what taking all of them gives (`drain_fst`);
* what `Stream.finish` reports (`finish_fst`): nothing besides what trails the source as long as tokens are taken
  (`Unskipped`), and the positions left over once there are no more (`Spent`).
-/

namespace DependencyEvidence

/-! ## Feeding lists -/

section Lists

variable {σ ρ : Type} {f : σ → Token → Demand σ ρ} {a b : σ} {r : ρ} {l left : List Token}

/-- A consumer that wants more has been fed the whole list. -/
theorem feedList_more (h : feedList f a l = (.more b, left)) : left = [] := by
  induction l generalizing a with
  | nil => simp_all [feedList]
  | cons t rest ih =>
    rw [feedList] at h
    cases hf : f a t with
    | more c => exact ih (by simpa [hf] using h)
    | done r => simp [hf] at h

theorem feedList_append_of_more (h : feedList f a l = (.more b, left)) (m : List Token) :
    feedList f a (l ++ m) = feedList f b m := by
  induction l generalizing a with
  | nil => simp_all [feedList]
  | cons t rest ih =>
    rw [feedList] at h
    rw [List.cons_append, feedList]
    cases hf : f a t with
    | more c => simpa using ih (by simpa [hf] using h)
    | done r => simp [hf] at h

theorem feedList_append_of_done (h : feedList f a l = (.done r, left)) (m : List Token) :
    feedList f a (l ++ m) = (.done r, left ++ m) := by
  induction l generalizing a with
  | nil => simp [feedList] at h
  | cons t rest ih =>
    rw [feedList] at h
    rw [List.cons_append, feedList]
    cases hf : f a t with
    | more c => simpa using ih (by simpa [hf] using h)
    | done r => simp_all

theorem feedList_map (g : Token → Token) (a : σ) (l : List Token) :
    feedList f a (l.map g) =
      ((feedList (fun b t => f b (g t)) a l).1, (feedList (fun b t => f b (g t)) a l).2.map g) := by
  induction l generalizing a with
  | nil => rfl
  | cons t rest ih =>
    rw [List.map_cons, feedList, feedList]
    cases hf : f a (g t) with
    | more c => exact ih c
    | done r => rfl

end Lists

/-! ## Consumers behind a filter -/

section Consumers

/-- The fragments of tokens, where `skipped` positions come before them, and the positions behind the last one. -/
def fragmentsAfter (skipped : UInt32) : List Token → List Token × UInt32
  | [] => ([], skipped)
  | t :: rest =>
    match t.fragments skipped with
    | [] => fragmentsAfter (skipped + t.increment) rest
    | parts => (parts ++ (fragmentsAfter 0 rest).1, (fragmentsAfter 0 rest).2)

/-- The pairs of tokens, where a term may come before them. -/
def pairsAfter : Option String → List Token → List Token
  | _, [] => []
  | previous, t :: rest => t.paired previous ++ pairsAfter (some t.term) rest

variable {σ ρ : Type} (f : σ → Token → Demand σ ρ) {a b : σ} {r : ρ} {l left part : List Token}

/-- What the consumer of fragments makes of whole tokens. It counts the positions that it skips, and keeps the fragments
that the consumer did not look at. -/
def feedFragments (s : σ × UInt32) (t : Token) : Demand (σ × UInt32) (ρ × List Token) :=
  match t.fragments s.2 with
  | [] => .more (s.1, s.2 + t.increment)
  | parts =>
    match feedList f s.1 parts with
    | (.done r, rest) => .done (r, rest)
    | (.more b, _) => .more (b, 0)

/-- What the consumer of pairs makes of single tokens. It remembers the term before. -/
def feedPairs (s : σ × Option String) (t : Token) : Demand (σ × Option String) (ρ × String × List Token) :=
  match feedList f s.1 (t.paired s.2) with
  | (.done r, rest) => .done (r, t.term, rest)
  | (.more b, _) => .more (b, some t.term)

variable {f}

theorem feedFragments_done {k : UInt32} (h : feedList (feedFragments f) (a, k) l = (.done (r, part), left)) :
    feedList f a (fragmentsAfter k l).1 = (.done r, part ++ (fragmentsAfter 0 left).1) ∧
      (fragmentsAfter 0 left).2 = (fragmentsAfter k l).2 := by
  induction l generalizing a k with
  | nil => simp [feedList] at h
  | cons t rest ih =>
    rw [feedList] at h
    rw [fragmentsAfter]
    cases hparts : t.fragments k with
    | nil => exact ih (by simpa [feedFragments, hparts] using h)
    | cons p parts =>
      rcases hfeed : feedList f a (p :: parts) with ⟨c | r', rest'⟩
      · rw [feedList_append_of_more hfeed]
        exact ih (by simpa [feedFragments, hparts, hfeed] using h)
      · rw [feedList_append_of_done hfeed]
        simp_all [feedFragments]

theorem feedFragments_more {k k' : UInt32} (h : feedList (feedFragments f) (a, k) l = (.more (b, k'), left)) :
    feedList f a (fragmentsAfter k l).1 = (.more b, []) ∧ (fragmentsAfter k l).2 = k' := by
  induction l generalizing a k with
  | nil => simp_all [feedList, fragmentsAfter]
  | cons t rest ih =>
    rw [feedList] at h
    rw [fragmentsAfter]
    cases hparts : t.fragments k with
    | nil => exact ih (by simpa [feedFragments, hparts] using h)
    | cons p parts =>
      rcases hfeed : feedList f a (p :: parts) with ⟨c | r', rest'⟩
      · rw [feedList_append_of_more hfeed]
        exact ih (by simpa [feedFragments, hparts, hfeed] using h)
      · simp [feedFragments, hparts, hfeed] at h

theorem feedPairs_done {previous : Option String} {term : String}
    (h : feedList (feedPairs f) (a, previous) l = (.done (r, term, part), left)) :
    feedList f a (pairsAfter previous l) = (.done r, part ++ pairsAfter (some term) left) := by
  induction l generalizing a previous with
  | nil => simp [feedList] at h
  | cons t rest ih =>
    rw [feedList] at h
    rw [pairsAfter]
    rcases hfeed : feedList f a (t.paired previous) with ⟨c | r', rest'⟩
    · rw [feedList_append_of_more hfeed]
      exact ih (by simpa [feedPairs, hfeed] using h)
    · rw [feedList_append_of_done hfeed]
      simp_all [feedPairs]

theorem feedPairs_more {previous previous' : Option String}
    (h : feedList (feedPairs f) (a, previous) l = (.more (b, previous'), left)) :
    feedList f a (pairsAfter previous l) = (.more b, []) := by
  induction l generalizing a previous with
  | nil => simp_all [feedList, pairsAfter]
  | cons t rest ih =>
    rw [feedList] at h
    rw [pairsAfter]
    rcases hfeed : feedList f a (t.paired previous) with ⟨c | r', rest'⟩
    · rw [feedList_append_of_more hfeed]
      exact ih (by simpa [feedPairs, hfeed] using h)
    · simp [feedPairs, hfeed] at h

end Consumers

namespace Stream

/-! ## What a state stands for -/

/-- The tokens that are still to come. -/
def rest : Stream → List Token
  | words _ left => left
  | replay _ left _ => left
  | fragments input pending skipped => pending ++ (fragmentsAfter skipped input.rest).1
  | lowercase input => input.rest.map Token.lowercased
  | pairs input previous pending => pending ++ pairsAfter previous input.rest

/-- The positions that are left over behind all tokens, besides what trails the source. -/
def carry : Stream → UInt32
  | words _ _ => 0
  | replay _ _ _ => 0
  | fragments input _ skipped => input.carry + (fragmentsAfter skipped input.rest).2
  | lowercase input => input.carry
  | pairs input _ _ => input.carry

/-- The source, before its first token. -/
def origin : Stream → Stream
  | words tokens _ => words tokens tokens
  | replay tokens _ trailing => replay tokens tokens trailing
  | fragments input _ _ => input.origin
  | lowercase input => input.origin
  | pairs input _ _ => input.origin

/-- The filters over the source, the innermost one first. -/
def filters : Stream → List TokenFilter
  | words _ _ => []
  | replay _ _ _ => []
  | fragments input _ _ => input.filters ++ [.fragments]
  | lowercase input => input.filters ++ [.lowercase]
  | pairs input _ _ => input.filters ++ [.pairs]

/-- The positions that have been skipped and not been reported. -/
def skipped : Stream → UInt32
  | words _ _ => 0
  | replay _ _ _ => 0
  | fragments input _ skipped => input.skipped + skipped
  | lowercase input => input.skipped
  | pairs input _ _ => input.skipped

/-- Whether no filter has skipped positions that are not reported. -/
def Unskipped : Stream → Prop
  | words _ _ => True
  | replay _ _ _ => True
  | fragments input _ skipped => input.Unskipped ∧ skipped = 0
  | lowercase input => input.Unskipped
  | pairs input _ _ => input.Unskipped

/-- Whether neither the source nor a filter holds a token. -/
def Spent : Stream → Prop
  | words _ left => left = []
  | replay _ left _ => left = []
  | fragments input pending _ => input.Spent ∧ pending = []
  | lowercase input => input.Spent
  | pairs input _ pending => input.Spent ∧ pending = []

/-! ## One feeding -/

/-- **All that feeding a consumer can do** to a stream `s`, if it gives `s'` and the answer `d`. -/
structure Fed {σ ρ : Type} (f : σ → Token → Demand σ ρ) (a : σ) (s : Stream) (d : Demand σ ρ) (s' : Stream) : Prop where
  /-- The consumer is fed the tokens to come, up to the one at which it is done. -/
  tokens : feedList f a s.rest = (d, s'.rest)
  carry : s'.carry = s.carry
  origin : s'.origin = s.origin
  filters : s'.filters = s.filters
  /-- Positions that are skipped belong to the token after them. -/
  unskipped (r : ρ) : d = .done r → s.Unskipped → s'.Unskipped
  spent (b : σ) : d = .more b → s'.Spent

section Filters

variable {σ ρ : Type} {f : σ → Token → Demand σ ρ} {a : σ} {input : Stream} {pending : List Token}

theorem feed_fragments (skipped : UInt32) :
    (fragments input pending skipped).feed f a =
      match feedList f a pending with
      | (.done r, rest) => (.done r, fragments input rest skipped)
      | (.more b, _) =>
        match input.feed (feedFragments f) (b, skipped) with
        | (.done (r, rest), input) => (.done r, fragments input rest 0)
        | (.more (b, skipped), input) => (.more b, fragments input [] skipped) := rfl

theorem feed_pairs (previous : Option String) :
    (pairs input previous pending).feed f a =
      match feedList f a pending with
      | (.done r, rest) => (.done r, pairs input previous rest)
      | (.more b, _) =>
        match input.feed (feedPairs f) (b, previous) with
        | (.done (r, term, rest), input) => (.done r, pairs input (some term) rest)
        | (.more (b, previous), input) => (.more b, pairs input previous []) := rfl

/-- Cutting into fragments passes on what feeding its input does. -/
theorem fed_fragments {skipped : UInt32}
    (h : ∀ b, Fed (feedFragments f) (b, skipped) input (input.feed (feedFragments f) (b, skipped)).1
      (input.feed (feedFragments f) (b, skipped)).2) :
    Fed f a (fragments input pending skipped) ((fragments input pending skipped).feed f a).1
      ((fragments input pending skipped).feed f a).2 := by
  rcases hpending : feedList f a pending with ⟨b | r, left⟩
  · have hfed := h b
    rcases hinput : input.feed (feedFragments f) (b, skipped) with ⟨⟨c, k⟩ | ⟨r, part⟩, input'⟩
    · have heq : (fragments input pending skipped).feed f a = (.more c, fragments input' [] k) := by
        simp only [feed_fragments, hpending, hinput]
      rw [hinput] at hfed
      have hrest : input'.rest = [] := feedList_more hfed.tokens
      have hinner : input'.carry = input.carry := hfed.carry
      obtain ⟨htokens, hcarry⟩ := feedFragments_more hfed.tokens
      rw [heq]
      refine ⟨?_, ?_, hfed.origin, congrArg (· ++ _) hfed.filters, fun r h => ?_, fun _ _ => ⟨hfed.spent _ rfl, rfl⟩⟩
      · rw [rest, feedList_append_of_more hpending, htokens]
        simp [rest, hrest, fragmentsAfter]
      · simp [carry, hinner, hcarry, hrest, fragmentsAfter]
      · cases h
    · have heq : (fragments input pending skipped).feed f a = (.done r, fragments input' part 0) := by
        simp only [feed_fragments, hpending, hinput]
      rw [hinput] at hfed
      have hinner : input'.carry = input.carry := hfed.carry
      obtain ⟨htokens, hcarry⟩ := feedFragments_done hfed.tokens
      rw [heq]
      refine ⟨?_, ?_, hfed.origin, congrArg (· ++ _) hfed.filters, fun _ _ h => ?_, fun b h => ?_⟩
      · rw [rest, feedList_append_of_more hpending, htokens]
        rfl
      · simp only [carry, hinner, hcarry]
      · exact ⟨hfed.unskipped _ rfl h.1, rfl⟩
      · cases h
  · -- the fragments that are held are enough
    have heq : (fragments input pending skipped).feed f a = (.done r, fragments input left skipped) := by
      simp only [feed_fragments, hpending]
    rw [heq]
    refine ⟨?_, rfl, rfl, rfl, fun _ _ h => h, fun b h => ?_⟩
    · rw [rest, feedList_append_of_done hpending]
      rfl
    · cases h

/-- Pairing passes on what feeding its input does. -/
theorem fed_pairs {previous : Option String}
    (h : ∀ b, Fed (feedPairs f) (b, previous) input (input.feed (feedPairs f) (b, previous)).1
      (input.feed (feedPairs f) (b, previous)).2) :
    Fed f a (pairs input previous pending) ((pairs input previous pending).feed f a).1
      ((pairs input previous pending).feed f a).2 := by
  rcases hpending : feedList f a pending with ⟨b | r, left⟩
  · have hfed := h b
    rcases hinput : input.feed (feedPairs f) (b, previous) with ⟨⟨c, last⟩ | ⟨r, term, part⟩, input'⟩
    · have heq : (pairs input previous pending).feed f a = (.more c, pairs input' last []) := by
        simp only [feed_pairs, hpending, hinput]
      rw [hinput] at hfed
      have hrest : input'.rest = [] := feedList_more hfed.tokens
      rw [heq]
      refine ⟨?_, hfed.carry, hfed.origin, congrArg (· ++ _) hfed.filters, fun r h => ?_,
        fun _ _ => ⟨hfed.spent _ rfl, rfl⟩⟩
      · rw [rest, feedList_append_of_more hpending, feedPairs_more hfed.tokens]
        simp [rest, hrest, pairsAfter]
      · cases h
    · have heq : (pairs input previous pending).feed f a = (.done r, pairs input' (some term) part) := by
        simp only [feed_pairs, hpending, hinput]
      rw [hinput] at hfed
      rw [heq]
      refine ⟨?_, hfed.carry, hfed.origin, congrArg (· ++ _) hfed.filters, fun _ _ h => ?_, fun b h => ?_⟩
      · rw [rest, feedList_append_of_more hpending, feedPairs_done hfed.tokens]
        rfl
      · exact hfed.unskipped _ rfl h
      · cases h
  · have heq : (pairs input previous pending).feed f a = (.done r, pairs input previous left) := by
      simp only [feed_pairs, hpending]
    rw [heq]
    refine ⟨?_, rfl, rfl, rfl, fun _ _ h => h, fun b h => ?_⟩
    · rw [rest, feedList_append_of_done hpending]
      rfl
    · cases h

end Filters

/-- Feeding a consumer does nothing else. -/
theorem fed_feed (s : Stream) {σ ρ : Type} (f : σ → Token → Demand σ ρ) (a : σ) :
    Fed f a s (s.feed f a).1 (s.feed f a).2 := by
  induction s generalizing σ ρ with
  | words tokens left =>
    exact ⟨rfl, rfl, rfl, rfl, fun _ _ _ => trivial, fun _ hb => feedList_more (Prod.ext hb rfl)⟩
  | replay tokens left trailing =>
    exact ⟨rfl, rfl, rfl, rfl, fun _ _ _ => trivial, fun _ hb => feedList_more (Prod.ext hb rfl)⟩
  | lowercase input ih =>
    obtain ⟨htokens, hcarry, horigin, hfilters, hunskipped, hspent⟩ := ih (fun b t => f b t.lowercased) a
    refine ⟨?_, hcarry, horigin, congrArg (· ++ _) hfilters, hunskipped, hspent⟩
    simp only [rest, feed, feedList_map, htokens]
  | fragments input pending skipped ih => exact fed_fragments fun b => ih (feedFragments f) (b, skipped)
  | pairs input previous pending ih => exact fed_pairs fun b => ih (feedPairs f) (b, previous)

/-! ## Taking tokens -/

section Taking

variable {s : Stream}

/-- The stream that is left when a token has been taken. -/
theorem fed_next (s : Stream) :
    Fed (fun (_ : Unit) t => .done t) () s (s.next.1.elim (.more ()) .done) s.next.2 := by
  have h := fed_feed s (fun (_ : Unit) t => Demand.done t) ()
  rw [next]
  rcases hfeed : s.feed (fun (_ : Unit) t => Demand.done t) () with ⟨_ | t, s'⟩
  · rwa [hfeed] at h
  · rwa [hfeed] at h

/-- While tokens are to come, the next one is taken. -/
theorem next_of_rest_cons {t : Token} {l : List Token} (h : s.rest = t :: l) :
    s.next.1 = some t ∧ s.next.2.rest = l ∧ (s.Unskipped → s.next.2.Unskipped) := by
  have hfed := fed_next s
  have htokens := hfed.tokens
  rw [h, feedList] at htokens
  cases hnext : s.next.1 with
  | none => simp [hnext] at htokens
  | some u =>
    simp only [hnext, Option.elim_some, Prod.mk.injEq, Demand.done.injEq] at htokens
    refine ⟨by rw [htokens.1], htokens.2.symm, hfed.unskipped u (by rw [hnext]; rfl)⟩

/-- When no tokens are to come, none is taken, and everything is spent. -/
theorem next_of_rest_nil (h : s.rest = []) : s.next.1 = none ∧ s.next.2.Spent := by
  have hfed := fed_next s
  have htokens := hfed.tokens
  rw [h, feedList] at htokens
  cases hnext : s.next.1 with
  | none => exact ⟨rfl, hfed.spent () (by rw [hnext]; rfl)⟩
  | some u => simp [hnext] at htokens

theorem feedList_take (taken l : List Token) :
    feedList (fun taken t => (Demand.more (t :: taken) : Demand _ Empty)) taken l =
      (.more (l.reverse ++ taken), []) := by
  induction l generalizing taken with
  | nil => rfl
  | cons t rest ih => simp [feedList, ih]

/-- The stream that is left when all tokens have been taken. -/
theorem fed_drain (s : Stream) :
    Fed (fun taken t => (Demand.more (t :: taken) : Demand _ Empty)) [] s (.more s.drain.1.reverse) s.drain.2 := by
  have h := fed_feed s (fun taken t => (Demand.more (t :: taken) : Demand _ Empty)) []
  rw [drain]
  rcases hfeed : s.feed (fun taken t => (Demand.more (t :: taken) : Demand _ Empty)) [] with ⟨taken | r, s'⟩
  · rw [hfeed] at h
    simpa using h
  · exact r.elim

/-- All tokens that are to come are taken. -/
theorem drain_fst (s : Stream) : s.drain.1 = s.rest := by
  have h := (fed_drain s).tokens
  rw [feedList_take] at h
  simpa using (congrArg Prod.fst h).symm

end Taking

/-! ## The end of a pass -/

section Ends

variable {s : Stream}

theorem rest_of_spent (h : s.Spent) : s.rest = [] := by
  induction s with
  | words tokens left => exact h
  | replay tokens left trailing => exact h
  | lowercase input ih => rw [rest, ih h]; rfl
  | fragments input pending skipped ih => simp [rest, ih h.1, h.2, fragmentsAfter]
  | pairs input previous pending ih => simp [rest, ih h.1, h.2, pairsAfter]

/-- Where everything is spent, what is left over is what has been skipped. -/
theorem carry_of_spent (h : s.Spent) : s.carry = s.skipped := by
  induction s with
  | words tokens left => rfl
  | replay tokens left trailing => rfl
  | lowercase input ih => exact ih h
  | fragments input pending skipped ih => simp [carry, Stream.skipped, ih h.1, rest_of_spent h.1, fragmentsAfter]
  | pairs input previous pending ih => exact ih h.1

theorem skipped_of_unskipped (h : s.Unskipped) : s.skipped = 0 := by
  induction s with
  | words tokens left => rfl
  | replay tokens left trailing => rfl
  | lowercase input ih => exact ih h
  | fragments input pending skipped ih => simp [Stream.skipped, ih h.1, h.2]
  | pairs input previous pending ih => exact ih h

/-- What is reported is what trails the source, and what has been skipped. -/
theorem finish_fst (s : Stream) : s.finish.1 = s.origin.finish.1 + s.skipped := by
  induction s with
  | words tokens left => rfl
  | replay tokens left trailing => simp [finish, origin, skipped]
  | lowercase input ih => exact ih
  | fragments input pending skipped ih => simp [finish, origin, Stream.skipped, ih, UInt32.add_assoc]
  | pairs input previous pending ih => exact ih

/-- Where nothing has been skipped, a report changes nothing. -/
theorem finish_of_unskipped (h : s.Unskipped) : s.finish.2 = s := by
  induction s with
  | words tokens left => rfl
  | replay tokens left trailing => rfl
  | lowercase input ih => simp [finish, ih h]
  | fragments input pending skipped ih => simp [finish, ih h.1, h.2]
  | pairs input previous pending ih => simp [finish, ih h]

/-- After a report nothing is skipped, and what was spent still is. -/
theorem finish_snd (s : Stream) :
    s.finish.2.Unskipped ∧ (s.Spent → s.finish.2.Spent) ∧ s.finish.2.origin = s.origin ∧
      s.finish.2.filters = s.filters := by
  induction s with
  | words tokens left => exact ⟨trivial, id, rfl, rfl⟩
  | replay tokens left trailing => exact ⟨trivial, id, rfl, rfl⟩
  | lowercase input ih =>
    obtain ⟨hunskipped, hspent, horigin, hfilters⟩ := ih
    exact ⟨hunskipped, hspent, horigin, congrArg (· ++ _) hfilters⟩
  | fragments input pending skipped ih =>
    obtain ⟨hunskipped, hspent, horigin, hfilters⟩ := ih
    exact ⟨⟨hunskipped, rfl⟩, fun h => ⟨hspent h.1, h.2⟩, horigin, congrArg (· ++ _) hfilters⟩
  | pairs input previous pending ih =>
    obtain ⟨hunskipped, hspent, horigin, hfilters⟩ := ih
    exact ⟨hunskipped, fun h => ⟨hspent h.1, h.2⟩, horigin, congrArg (· ++ _) hfilters⟩

end Ends

/-! ## Starting over -/

/-- A filter over a stack is the outermost one. -/
theorem stacked_append (s : Stream) (filters more : List TokenFilter) :
    s.stacked (filters ++ more) = (s.stacked filters).stacked more := List.foldl_append

/-- **Starting over** forgets all but the source and the filters. -/
theorem reset_eq (s : Stream) : s.reset = s.origin.stacked s.filters := by
  induction s with
  | words tokens left => rfl
  | replay tokens left trailing => rfl
  | fragments input pending skipped ih => rw [reset, ih, filters, stacked_append]; rfl
  | lowercase input ih => rw [reset, ih, filters, stacked_append]; rfl
  | pairs input previous pending ih => rw [reset, ih, filters, stacked_append]; rfl

/-- Another text goes to the source. -/
theorem setText_stacked (text : String) (s : Stream) (filters : List TokenFilter) :
    (s.stacked filters).setText text = (s.setText text).stacked filters := by
  induction filters generalizing s with
  | nil => rfl
  | cons f rest ih =>
    have hunder : (s.under f).setText text = (s.setText text).under f := by cases f <;> rfl
    show ((s.under f).stacked rest).setText text = ((s.setText text).under f).stacked rest
    rw [ih, hunder]

theorem filters_stacked (s : Stream) (filters : List TokenFilter) :
    (s.stacked filters).filters = s.filters ++ filters ∧ (s.stacked filters).origin = s.origin := by
  induction filters generalizing s with
  | nil => simp [stacked]
  | cons f rest ih =>
    have hunder : (s.under f).filters = s.filters ++ [f] ∧ (s.under f).origin = s.origin := by
      cases f <;> exact ⟨rfl, rfl⟩
    obtain ⟨hfilters, horigin⟩ := ih (s.under f)
    refine ⟨?_, horigin.trans hunder.2⟩
    show ((s.under f).stacked rest).filters = _
    rw [hfilters, hunder.1, List.append_assoc]
    rfl

end Stream

end DependencyEvidence
