import DependencyEvidence.Proofs.Text.Consumers
import DependencyEvidence.Proofs.Text.Positions

/-!
# Positions through filters

The filter that cuts hands every position on: what its source skips goes to the next fragment, or to the end
(`Stream.finish_drain`, `Spaced.sum_split`).

What comes out of it are fragments (`Stream.IsCut`). A fragment that is cut again stays what it is, so that a further
filter that cuts does nothing to any consumer (`Stream.feed_under_fragments`), and filters that take to lower case do so
and nothing else (`Stream.feed_stacked`). Hence further filters of these two kinds change no answer to any request, but
for the case of terms (`Stream.serve_stacked`).
-/

namespace DependencyEvidence

/-! ## Fragments -/

/-- Whether a token is a fragment: letters and digits, at least one of them. -/
def Token.IsFragment (t : Token) : Prop := t.term ≠ "" ∧ ∀ c ∈ t.term.toList, isAlphanumeric c = true

theorem isFragment_run {text run : List Char} (h : run ∈ Text.alphanumericRuns text) (increment : UInt32) :
    Token.IsFragment ⟨String.ofList run, increment⟩ := by
  refine ⟨fun hempty => Text.ne_nil_of_mem_alphanumericRuns h ?_, ?_⟩
  · simpa using hempty
  · rw [String.toList_ofList]
    exact Text.alphanumeric_of_mem_runs h

/-- A token is cut into fragments. -/
theorem isFragment_of_mem_fragments (t : Token) (skipped : UInt32) : ∀ part ∈ t.fragments skipped, part.IsFragment := by
  have hrun := fun run (h : run ∈ Text.alphanumericRuns t.term.toList) => isFragment_run h
  intro part hpart
  rw [Token.fragments, Text.runs_not_alphanumeric] at hpart
  cases hruns : Text.alphanumericRuns t.term.toList with
  | nil => simp [hruns] at hpart
  | cons run runs =>
    rw [hruns] at hpart hrun
    rcases List.mem_cons.1 hpart with rfl | hpart
    · exact hrun run List.mem_cons_self _
    · obtain ⟨other, hother, rfl⟩ := List.mem_map.1 hpart
      exact hrun other (List.mem_cons_of_mem _ hother) 1

/-- The token in lower case, if a filter for that is among these. -/
def Token.loweredBy (filters : List TokenFilter) (t : Token) : Token :=
  if .lowercase ∈ filters then t.lowercased else t

theorem Token.loweredBy_fragments (filters : List TokenFilter) (t : Token) :
    t.loweredBy (.fragments :: filters) = t.loweredBy filters := by
  simp [loweredBy]

namespace Token.IsFragment

variable {t : Token}

/-- A fragment that is cut again stays what it is. -/
theorem fragments_eq (h : t.IsFragment) : t.fragments 0 = [t] := by
  have hne : t.term.toList ≠ [] := by simpa using h.1
  rw [Token.fragments, Text.runs_not_alphanumeric, Text.alphanumericRuns_of_alphanumeric hne h.2]
  simp

theorem toList_lowercased (h : t.IsFragment) : t.lowercased.term.toList = t.term.toList.map Char.toLower := by
  rw [Token.lowercased, String.toList_ofList, Text.lowercaseText_of_alphanumeric h.2]

theorem lowercased (h : t.IsFragment) : t.lowercased.IsFragment := by
  refine ⟨fun hempty => h.1 ?_, ?_⟩
  · have hnil := h.toList_lowercased
    rw [hempty] at hnil
    simpa using hnil.symm
  · rw [h.toList_lowercased, List.forall_mem_map]
    exact fun c hc => (Text.toLower_alphanumeric (h.2 c hc)).1

theorem lowercased_twice (h : t.IsFragment) : t.lowercased.lowercased = t.lowercased := by
  have hterm : t.lowercased.lowercased.term = t.lowercased.term := by
    rw [← String.toList_inj, h.lowercased.toList_lowercased, h.toList_lowercased, List.map_map]
    exact List.map_congr_left fun c hc => (Text.toLower_alphanumeric (h.2 c hc)).2
  exact congrArg (fun term => (⟨term, t.increment⟩ : Token)) hterm

end Token.IsFragment

/-! ## Streams of fragments -/

namespace Stream

/-- Whether a stream gives fragments only, since it cuts, and does no more to fragments than take them to lower case. -/
def IsCut : Stream → Prop
  | fragments _ pending _ => ∀ t ∈ pending, t.IsFragment
  | lowercase input => input.IsCut
  | _ => False

variable {s : Stream}

theorem Holds.isCut (h : s.Holds Token.IsFragment) : s.IsCut := by
  cases s with
  | fragments input pending skipped => exact h
  | _ => exact h.elim

theorem isCut_under (s : Stream) : (s.under .fragments).IsCut := fun _ ht => nomatch ht

section Feeding

variable {σ σ' ρ ρ' : Type}

/-- For a stream of fragments, agreement on fragments is enough. -/
theorem IsCut.feed_agree {R : σ → σ' → Prop} {Q : ρ → ρ' → Prop} {f : σ → Token → Demand σ ρ}
    {g : σ' → Token → Demand σ' ρ'} (hs : s.IsCut) (h : Agree Token.IsFragment R Q f g) {a : σ} {b : σ'} (hab : R a b) :
    Alike R Q (s.feed f a) (s.feed g b) ∧ (s.feed f a).2.IsCut := by
  induction s generalizing f g with
  | words tokens left => exact hs.elim
  | replay tokens left trailing => exact hs.elim
  | pairs input previous pending ih => exact hs.elim
  | lowercase input ih =>
    obtain ⟨halike, hcut⟩ := ih hs fun t ht => h t.lowercased ht.lowercased
    exact ⟨halike.map lowercase, hcut⟩
  | fragments input pending skipped ih =>
    obtain ⟨halike, hholds⟩ := feed_fragments_agree h hs
      (fun a b hab => Stream.feed_agree input (feedFragments_agree isFragment_of_mem_fragments h) ⟨hab, rfl⟩) hab
    exact ⟨halike, hholds.isCut⟩

/-- To a stream of fragments, consumers are the same that answer the same to fragments. -/
theorem IsCut.feed_congr {f g : σ → Token → Demand σ ρ} (hs : s.IsCut)
    (h : ∀ b t, t.IsFragment → f b t = g b t) (a : σ) : s.feed f a = s.feed g a := by
  have hagree : Agree Token.IsFragment Eq Eq f g := by
    rintro t ht a _ rfl
    rw [h a t ht]
    cases g a t with
    | more b => exact .more rfl
    | done r => exact .done rfl
  have halike := (hs.feed_agree hagree (rfl : a = a)).1
  generalize s.feed f a = x at halike ⊢
  generalize s.feed g a = y at halike ⊢
  cases halike with
  | more h left => rw [h]
  | done h left => rw [h]

/-- **Fragments are not cut again**: to any consumer, a further filter that cuts is not there. -/
theorem IsCut.feed_under_fragments (hs : s.IsCut) (f : σ → Token → Demand σ ρ) (a : σ) :
    (s.under .fragments).feed f a = ((s.feed f a).1, (s.feed f a).2.under .fragments) := by
  -- behind the further filter no position is ever skipped, and no fragment is held
  have hagree : Agree Token.IsFragment (fun x b => x = (b, 0)) (fun x r => x = (r, [])) (feedFragments f) f := by
    rintro t ht _ b rfl
    simp only [feedFragments, ht.fragments_eq, feedList]
    cases f b t with
    | more c => exact .more rfl
    | done r => exact .done rfl
  have halike := (hs.feed_agree hagree (a := (a, 0)) (b := a) rfl).1
  rw [under, feed_fragments, feedList]
  dsimp only
  generalize s.feed (feedFragments f) _ = x at halike ⊢
  generalize s.feed f a = y at halike ⊢
  cases halike with
  | more h left => rw [h]; rfl
  | done h left => rw [h]; rfl

/-- Further filters that cut or take to lower case do the latter alone. -/
theorem IsCut.feed_stacked {filters : List TokenFilter} (hfilters : .pairs ∉ filters) (hs : s.IsCut)
    (f : σ → Token → Demand σ ρ) (a : σ) :
    (s.stacked filters).feed f a =
      ((s.feed (fun b t => f b (t.loweredBy filters)) a).1,
        (s.feed (fun b t => f b (t.loweredBy filters)) a).2.stacked filters) := by
  induction filters generalizing s with
  | nil => rfl
  | cons filter rest ih =>
    rw [List.mem_cons, not_or] at hfilters
    show ((s.under filter).stacked rest).feed f a = _
    cases filter with
    | pairs => exact absurd rfl hfilters.1
    | fragments =>
      rw [ih hfilters.2 (isCut_under s), hs.feed_under_fragments]
      simp only [Token.loweredBy_fragments]
      rfl
    | lowercase =>
      have hlower : (s.under .lowercase).IsCut := hs
      have hsame : s.feed (fun b t => f b (t.lowercased.loweredBy rest)) a =
          s.feed (fun b t => f b (t.loweredBy (.lowercase :: rest))) a := by
        refine hs.feed_congr (fun b t ht => ?_) a
        unfold Token.loweredBy
        split <;> simp [ht.lowercased_twice]
      rw [ih hfilters.2 hlower, ← hsame]
      rfl

end Feeding

/-! ## Requests to streams of fragments -/

theorem IsCut.afterRequest (hs : s.IsCut) (r : Request) : (s.afterRequest r).IsCut := by
  rcases r with ⟨_ | _⟩ | _ | text
  · have hagree : Agree Token.IsFragment Eq Eq (fun (_ : Unit) t => Demand.done t) fun _ t => .done t :=
      fun _ _ _ _ _ => .done rfl
    have hcut := (hs.feed_agree hagree (rfl : () = ())).2
    show s.next.2.IsCut
    rw [next]
    rcases hfeed : s.feed (fun (_ : Unit) t => Demand.done t) () with ⟨_ | t, s'⟩
    · rwa [hfeed] at hcut
    · rwa [hfeed] at hcut
  · show s.finish.2.IsCut
    induction s with
    | words | replay | pairs => exact hs.elim
    | lowercase input ih => exact ih hs
    | fragments input pending skipped ih => exact hs
  · show s.reset.IsCut
    induction s with
    | words | replay | pairs => exact hs.elim
    | lowercase input ih => exact ih hs
    | fragments input pending skipped ih => exact fun _ ht => absurd ht List.not_mem_nil
  · show (s.setText text).IsCut
    induction s with
    | words | replay | pairs => exact hs.elim
    | lowercase input ih => exact ih hs
    | fragments input pending skipped ih => exact hs

theorem IsCut.next_stacked {filters : List TokenFilter} (hfilters : .pairs ∉ filters) (hs : s.IsCut) :
    (s.stacked filters).next = (s.next.1.map (·.loweredBy filters), s.next.2.stacked filters) := by
  have hagree : Agree (fun _ => True) Eq (fun t u => t = u.loweredBy filters)
      (fun (_ : Unit) t => Demand.done (t.loweredBy filters)) fun (_ : Unit) t => .done t :=
    fun _ _ _ _ _ => .done rfl
  have halike := Stream.feed_agree s hagree (rfl : () = ())
  rw [next, next, hs.feed_stacked hfilters]
  generalize s.feed (fun (_ : Unit) t => Demand.done (t.loweredBy filters)) () = x at halike ⊢
  generalize s.feed (fun (_ : Unit) t => Demand.done t) () = y at halike ⊢
  cases halike with
  | more h left => rfl
  | done h left => rw [h]; rfl

/-- Filters that hold nothing add nothing to what is reported. -/
theorem finish_stacked (s : Stream) (filters : List TokenFilter) :
    (s.stacked filters).finish = (s.finish.1, s.finish.2.stacked filters) := by
  induction filters generalizing s with
  | nil => rfl
  | cons f rest ih =>
    have hunder : (s.under f).finish = (s.finish.1, s.finish.2.under f) := by
      cases f with
      | fragments => exact congrArg (·, s.finish.2.under .fragments) (UInt32.add_zero _)
      | lowercase => rfl
      | pairs => rfl
    show ((s.under f).stacked rest).finish = (s.finish.1, (s.finish.2.under f).stacked rest)
    rw [ih, hunder]

theorem reset_stacked (s : Stream) (filters : List TokenFilter) :
    (s.stacked filters).reset = s.reset.stacked filters := by
  obtain ⟨hfilters, horigin⟩ := filters_stacked s filters
  rw [reset_eq, hfilters, horigin, stacked_append, ← reset_eq]

end Stream

/-- The answer with its term in lower case, if a filter for that is among these. -/
def Answer.loweredBy (filters : List TokenFilter) : Answer → Answer
  | token t => token (t.map (·.loweredBy filters))
  | trailing increment => trailing increment
  | done => done

namespace Stream

variable {s : Stream} {filters : List TokenFilter}

/-- One request to a stack over a stream of fragments is one to the stream. -/
theorem IsCut.request_stacked (hfilters : .pairs ∉ filters) (hs : s.IsCut) (r : Request) :
    (s.stacked filters).answer r = (s.answer r).loweredBy filters ∧
      (s.stacked filters).afterRequest r = (s.afterRequest r).stacked filters := by
  rcases r with ⟨_ | _⟩ | _ | text
  · simp only [answer, Stream.afterRequest, afterCall, hs.next_stacked hfilters, Answer.loweredBy, and_self]
  · simp only [answer, Stream.afterRequest, afterCall, finish_stacked, Answer.loweredBy, and_self]
  · exact ⟨rfl, reset_stacked s filters⟩
  · exact ⟨rfl, setText_stacked text s filters⟩

/-- **Further filters that cut or take to lower case change the case of terms, and nothing else.** -/
theorem IsCut.serve_stacked (hfilters : .pairs ∉ filters) (hs : s.IsCut) (requests : List Request) :
    ((s.stacked filters).serve requests).1 = (s.serve requests).1.map (·.loweredBy filters) := by
  induction requests generalizing s with
  | nil => rfl
  | cons r rest ih =>
    obtain ⟨hanswer, hafter⟩ := hs.request_stacked hfilters r
    rw [serve, serve, List.map_cons, hanswer, hafter, ih (hs.afterRequest r)]

/-! ## Positions -/

/-- What a stream reports after its last token: what trails the source, and what is left over. -/
theorem finish_drain (s : Stream) : s.drain.2.finish.1 = s.origin.finish.1 + s.carry := by
  have hfed := fed_drain s
  have hspent := hfed.spent _ rfl
  rw [finish_fst, hfed.origin, ← carry_of_spent hspent, hfed.carry]

/-- The sum of the increments of tokens. -/
def increments (tokens : List Token) : Nat := (tokens.map fun t => t.increment.toNat).sum

theorem increments_map_token {l : List Spaced} (h : ∀ t ∈ l, t.distance < UInt32.size) :
    increments (l.map Spaced.token) = (l.map Spaced.distance).sum := by
  rw [increments, List.map_map]
  exact congrArg List.sum (List.map_congr_left fun t ht => UInt32.toNat_ofNat_of_lt' (h t ht))

/-- **Positions are conserved.** What the fragments of a source and the first report after them add up to are the
positions of the source and the ones that its terms gain by being cut, as long as the positions of the source fit into
32 bits. Further filters that cut or take to lower case change no answer to any requests, but for the case of terms. -/
theorem positions_under_fragments (s : Stream) :
    (increments s.drain.1 + s.drain.2.finish.1.toNat < UInt32.size →
      increments (s.under .fragments).drain.1 + (s.under .fragments).drain.2.finish.1.toNat =
        increments s.drain.1 + s.drain.2.finish.1.toNat + gained (s.drain.1.map Token.term)) ∧
    ∀ filters : List TokenFilter, .pairs ∉ filters → ∀ requests,
      (((s.under .fragments).stacked filters).serve requests).1 =
        ((s.under .fragments).serve requests).1.map (·.loweredBy filters) := by
  refine ⟨fun hfits => ?_, fun filters hfilters requests => (isCut_under s).serve_stacked hfilters requests⟩
  let source : List Spaced := s.drain.1.map Token.spaced
  let split := Spaced.split 0 source
  have hsource : s.rest = source.map Spaced.token := by
    rw [← drain_fst, List.map_map]
    exact (List.map_id'' Token.token_spaced _).symm
  have hincrements : increments s.drain.1 = (source.map Spaced.distance).sum := by
    rw [List.map_map]
    rfl
  have hterms : s.drain.1.map Token.term = source.map Spaced.term := by
    rw [List.map_map]
    rfl
  obtain ⟨hrest, hcarry⟩ := rest_under .fragments hsource
  -- no distance wraps
  have hdistances : ∀ t ∈ split.1, t.distance < UInt32.size := by
    intro t ht
    have hle : t.distance ≤ max 1 (0 + (source.map Spaced.distance).sum) := Spaced.distance_le_of_mem_split t ht
    have hone : 1 < UInt32.size := by decide
    omega
  have hleft : split.2 ≤ 0 + (source.map Spaced.distance).sum := Spaced.left_split_le 0 source
  have hfinish : (s.under .fragments).drain.2.finish.1.toNat = s.drain.2.finish.1.toNat + split.2 := by
    have hsum : (s.under .fragments).drain.2.finish.1 = s.drain.2.finish.1 + .ofNat split.2 := by
      rw [finish_drain, finish_drain, hcarry, UInt32.add_assoc]
      rfl
    rw [hsum, UInt32.toNat_add, UInt32.toNat_ofNat_of_lt' (by omega), Nat.mod_eq_of_lt]
    show _ < UInt32.size
    omega
  have hconserved : (split.1.map Spaced.distance).sum + split.2 =
      0 + (source.map Spaced.distance).sum + gained (source.map Spaced.term) := Spaced.sum_split 0 source
  rw [hfinish, drain_fst (s.under .fragments), hrest, show (TokenFilter.through .fragments source).1 = split.1 from rfl,
    increments_map_token hdistances, hterms]
  omega

theorem positions_under_fragments_skipping :
    let s := Stream.ofList [⟨"--", 2⟩, ⟨"a.b", 1⟩, ⟨"!", 3⟩] 4
    (increments s.drain.1 + s.drain.2.finish.1.toNat < UInt32.size ∧ TokenFilter.pairs ∉ [.fragments, .lowercase]) ∧
      increments (s.under .fragments).drain.1 + (s.under .fragments).drain.2.finish.1.toNat = 6 + 4 + 1 ∧
      (((s.under .fragments).stacked [.fragments, .lowercase]).serve [.call .next, .call .finish]).1 =
        ((s.under .fragments).serve [.call .next, .call .finish]).1.map (·.loweredBy [.fragments, .lowercase]) := by
  intro s
  have hfits : increments s.drain.1 + s.drain.2.finish.1.toNat < UInt32.size := by decide +kernel
  have hfilters : TokenFilter.pairs ∉ [.fragments, .lowercase] := by decide
  obtain ⟨hpositions, hrequests⟩ := positions_under_fragments s
  exact ⟨⟨hfits, hfilters⟩, (hpositions hfits).trans (by decide +kernel), hrequests _ hfilters _⟩

end Stream

end DependencyEvidence
