import DependencyEvidence.Proofs.Text.Requests

/-!
# Consumers that agree

Two consumers of tokens may keep different states and give different results. They agree (`Agree`) if they are done with
the same tokens, where states and results stay related. What a stream does depends on nothing else: fed to consumers
that agree, it is left the same, and the answers are related (`Stream.feed_agree`).
-/

namespace DependencyEvidence

variable {σ σ' ρ ρ' τ : Type}

/-- Both answers want more, with related states, or both are done, with related results. -/
inductive Demand.Both (R : σ → σ' → Prop) (Q : ρ → ρ' → Prop) : Demand σ ρ → Demand σ' ρ' → Prop
  | more {a : σ} {b : σ'} (h : R a b) : Both R Q (.more a) (.more b)
  | done {r : ρ} {r' : ρ'} (h : Q r r') : Both R Q (.done r) (.done r')

/-- Related answers, and the same left over with both. -/
inductive Alike (R : σ → σ' → Prop) (Q : ρ → ρ' → Prop) : Demand σ ρ × τ → Demand σ' ρ' × τ → Prop
  | more {a : σ} {b : σ'} (h : R a b) (left : τ) : Alike R Q (.more a, left) (.more b, left)
  | done {r : ρ} {r' : ρ'} (h : Q r r') (left : τ) : Alike R Q (.done r, left) (.done r', left)

/-- What is left over may be put into something else. -/
theorem Alike.map {υ : Type} {R : σ → σ' → Prop} {Q : ρ → ρ' → Prop} {x : Demand σ ρ × τ} {y : Demand σ' ρ' × τ}
    (h : Alike R Q x y) (into : τ → υ) : Alike R Q (x.1, into x.2) (y.1, into y.2) := by
  cases h with
  | more h left => exact .more h _
  | done h left => exact .done h _

/-- Whether consumers in related states answer alike to every token of a kind. -/
def Agree (P : Token → Prop) (R : σ → σ' → Prop) (Q : ρ → ρ' → Prop) (f : σ → Token → Demand σ ρ)
    (g : σ' → Token → Demand σ' ρ') : Prop :=
  ∀ t, P t → ∀ a b, R a b → (f a t).Both R Q (g b t)

section

variable {P : Token → Prop} {R : σ → σ' → Prop} {Q : ρ → ρ' → Prop} {f : σ → Token → Demand σ ρ}
  {g : σ' → Token → Demand σ' ρ'} {a : σ} {b : σ'}

/-- Fed the same list, consumers that agree leave the same over. -/
theorem feedList_agree (h : Agree P R Q f g) (hab : R a b) {l : List Token} (hl : ∀ t ∈ l, P t) :
    Alike R Q (feedList f a l) (feedList g b l) := by
  induction l generalizing a b with
  | nil => exact .more hab []
  | cons t rest ih =>
    obtain ⟨ht, hrest⟩ := List.forall_mem_cons.1 hl
    have hboth := h t ht a b hab
    rw [feedList, feedList]
    generalize f a t = x at hboth ⊢
    generalize g b t = y at hboth ⊢
    cases hboth with
    | more hab' => exact ih hab' hrest
    | done hr => exact .done hr rest

theorem feedList_suffix (l : List Token) : (feedList f a l).2 <:+ l := by
  induction l generalizing a with
  | nil => exact List.suffix_rfl
  | cons t rest ih =>
    rw [feedList]
    cases f a t with
    | more b => exact ih.trans (List.suffix_cons t rest)
    | done r => exact List.suffix_cons t rest

/-- Consumers that agree on fragments do so behind the filter that cuts, and what they leave over are fragments. -/
theorem feedFragments_agree (hP : ∀ (t : Token) k, ∀ part ∈ t.fragments k, P part) (h : Agree P R Q f g) :
    Agree (fun _ => True) (fun s s' => R s.1 s'.1 ∧ s.2 = s'.2) (fun x y => Q x.1 y.1 ∧ x.2 = y.2 ∧ ∀ t ∈ x.2, P t)
      (feedFragments f) (feedFragments g) := by
  rintro t - ⟨a, k⟩ ⟨b, k'⟩ ⟨hab, rfl⟩
  have hparts := hP t k
  simp only [feedFragments]
  generalize t.fragments k = parts at hparts ⊢
  cases parts with
  | nil => exact .more ⟨hab, rfl⟩
  | cons part parts =>
    have halike := feedList_agree h hab hparts
    have hsuffix := feedList_suffix (f := f) (a := a) (part :: parts)
    dsimp only
    generalize feedList f a (part :: parts) = x at halike hsuffix ⊢
    generalize feedList g b (part :: parts) = y at halike ⊢
    cases halike with
    | more hab' left => exact .more ⟨hab', rfl⟩
    | done hr left => exact .done ⟨hr, rfl, fun u hu => hparts u (hsuffix.subset hu)⟩

/-- Consumers that agree do so behind the filter that pairs. -/
theorem feedPairs_agree (h : Agree (fun _ => True) R Q f g) :
    Agree (fun _ => True) (fun s s' => R s.1 s'.1 ∧ s.2 = s'.2) (fun x y => Q x.1 y.1 ∧ x.2 = y.2)
      (feedPairs f) (feedPairs g) := by
  rintro t - ⟨a, previous⟩ ⟨b, previous'⟩ ⟨hab, rfl⟩
  have halike := feedList_agree h hab (l := t.paired previous) fun _ _ => trivial
  simp only [feedPairs]
  generalize feedList f a (t.paired previous) = x at halike ⊢
  generalize feedList g b (t.paired previous) = y at halike ⊢
  cases halike with
  | more hab' left => exact .more ⟨hab', rfl⟩
  | done hr left => exact .done ⟨hr, rfl⟩

namespace Stream

variable {input : Stream} {pending : List Token}

/-- Whether the filter that cuts comes last, and holds tokens of a kind only. -/
def Holds (P : Token → Prop) : Stream → Prop
  | fragments _ pending _ => ∀ t ∈ pending, P t
  | _ => False

/-- The filter that cuts passes agreement on from its input, and goes on holding fragments. -/
theorem feed_fragments_agree {skipped : UInt32} (h : Agree P R Q f g) (hpending : ∀ t ∈ pending, P t)
    (hinput : ∀ a b, R a b → Alike (fun s s' => R s.1 s'.1 ∧ s.2 = s'.2)
      (fun x y => Q x.1 y.1 ∧ x.2 = y.2 ∧ ∀ t ∈ x.2, P t) (input.feed (feedFragments f) (a, skipped))
      (input.feed (feedFragments g) (b, skipped))) (hab : R a b) :
    Alike R Q ((fragments input pending skipped).feed f a) ((fragments input pending skipped).feed g b) ∧
      ((fragments input pending skipped).feed f a).2.Holds P := by
  have halike := feedList_agree h hab hpending
  have hsuffix := feedList_suffix (f := f) (a := a) pending
  rw [feed_fragments, feed_fragments]
  generalize feedList f a pending = x at halike hsuffix ⊢
  generalize feedList g b pending = y at halike ⊢
  cases halike with
  | done hr left => exact ⟨.done hr _, fun t ht => hpending t (hsuffix.subset ht)⟩
  | more hab' left =>
    have hin := hinput _ _ hab'
    dsimp only
    generalize input.feed (feedFragments f) _ = x at hin ⊢
    generalize input.feed (feedFragments g) _ = y at hin ⊢
    cases hin with
    | @more s s' hs left =>
      rcases s with ⟨a', k⟩
      rcases s' with ⟨b', k'⟩
      obtain ⟨hs, rfl⟩ : R a' b' ∧ k = k' := hs
      exact ⟨.more hs _, fun t ht => nomatch ht⟩
    | @done r r' hr left =>
      rcases r with ⟨r, part⟩
      rcases r' with ⟨r', part'⟩
      obtain ⟨hr, rfl, hpart⟩ : Q r r' ∧ part = part' ∧ ∀ t ∈ part, P t := hr
      exact ⟨.done hr _, hpart⟩

end Stream

end

/-- **What a stream does depends on the consumer's answers only**: fed to consumers that agree, it is left the same. -/
theorem Stream.feed_agree (s : Stream) {σ σ' ρ ρ' : Type} {R : σ → σ' → Prop} {Q : ρ → ρ' → Prop}
    {f : σ → Token → Demand σ ρ} {g : σ' → Token → Demand σ' ρ'} (h : Agree (fun _ => True) R Q f g) {a : σ} {b : σ'}
    (hab : R a b) : Alike R Q (s.feed f a) (s.feed g b) := by
  induction s generalizing σ σ' ρ ρ' with
  | words tokens left => exact (feedList_agree h hab fun _ _ => trivial).map _
  | replay tokens left trailing =>
    exact (feedList_agree h hab fun _ _ => trivial).map fun left => replay tokens left trailing
  | lowercase input ih => exact (ih (fun t _ => h t.lowercased trivial) hab).map _
  | fragments input pending skipped ih =>
    exact (feed_fragments_agree h (fun _ _ => trivial)
      (fun a b hab => ih (feedFragments_agree (fun _ _ _ _ => trivial) h) ⟨hab, rfl⟩) hab).1
  | pairs input previous pending ih =>
    have halike := feedList_agree h hab (l := pending) fun _ _ => trivial
    rw [feed_pairs, feed_pairs]
    generalize feedList f a pending = x at halike ⊢
    generalize feedList g b pending = y at halike ⊢
    cases halike with
    | done hr left => exact .done hr _
    | @more a' b' hab' left =>
      have hin := ih (feedPairs_agree h) (a := (a', previous)) (b := (b', previous)) ⟨hab', rfl⟩
      dsimp only
      generalize input.feed (feedPairs f) _ = x at hin ⊢
      generalize input.feed (feedPairs g) _ = y at hin ⊢
      cases hin with
      | @more s s' hs left =>
        rcases s with ⟨a', last⟩
        rcases s' with ⟨b', last'⟩
        obtain ⟨hs, rfl⟩ : R a' b' ∧ last = last' := hs
        exact .more hs _
      | @done r r' hr left =>
        rcases r with ⟨r, term, part⟩
        rcases r' with ⟨r', term', part'⟩
        obtain ⟨hr, heq⟩ : Q r r' ∧ (term, part) = (term', part') := hr
        cases heq
        exact .done hr _

end DependencyEvidence
