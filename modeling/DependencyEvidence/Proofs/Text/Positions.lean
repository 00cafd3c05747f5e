import DependencyEvidence.Proofs.Text.Terms
import Mathlib.Algebra.GroupWithZero.Nat

/-!
# Positions of tokens

The position of a token is the sum of the distances up to it (`located`). A word is one position behind the word before
it, or behind the last fragment of that word, so that a term gains one position for every fragment but its first
(`gained`).

* `Spaced.sum_split`: cutting loses no position. What terms do not gain is handed on, or left over.
* `located_split`: where the fragments of words stand, by induction on the words.
* `located_pair`: a concatenation stands where the first of its two terms stands.
* `SearchField.located_tokens_after`: the positions of a text's tokens in closed form.
-/

namespace DependencyEvidence

/-! ## Positions gained by cutting -/

/-- The number of alphanumeric fragments of a term. -/
def fragmentCount (term : String) : Nat := (fragmentsOf term).length

/-- The positions that terms gain by being cut: one for every fragment but the first, of each term that has any. -/
def gained (terms : List String) : Nat := (((terms.map fragmentCount).filter (0 < ·)).map (· - 1)).sum

theorem gained_cons (term : String) (terms : List String) :
    gained (term :: terms) = (fragmentCount term - 1) + gained terms := by
  rw [gained, List.map_cons, List.filter_cons]
  split
  · rfl
  · next hnone =>
    have hzero : fragmentCount term = 0 := by simpa using hnone
    rw [hzero, Nat.zero_sub, Nat.zero_add, gained]

namespace Spaced

/-- **Cutting loses no position**: the fragments and what is left over take up what was skipped, the distances of the
terms, and what these gain. -/
theorem sum_split (skipped : Nat) (l : List Spaced) :
    ((split skipped l).1.map distance).sum + (split skipped l).2 =
      skipped + (l.map distance).sum + gained (l.map term) := by
  induction l generalizing skipped with
  | nil => simp [split, gained]
  | cons t rest ih =>
    rw [split, List.map_cons, List.map_cons, List.sum_cons, gained_cons, fragmentCount]
    cases fragmentsOf t.term with
    | nil =>
      have hrest := ih (skipped + t.distance)
      simp only [List.length_nil]
      omega
    | cons part parts =>
      have hrest := ih 0
      have hparts : ((parts.map fun p => (⟨p, 1⟩ : Spaced)).map distance).sum = parts.length := by
        simp [Function.comp_def]
      simp only [List.cons_append, List.map_cons, List.map_append, List.sum_cons, List.sum_append, hparts,
        List.length_cons]
      omega

/-- A fragment is at distance one, or takes up some of the positions before it. -/
theorem distance_le_of_mem_split {skipped : Nat} {l : List Spaced} :
    ∀ t ∈ (split skipped l).1, t.distance ≤ max 1 (skipped + (l.map distance).sum) := by
  induction l generalizing skipped with
  | nil => simp [split]
  | cons u rest ih =>
    intro t ht
    rw [split] at ht
    rw [List.map_cons, List.sum_cons]
    cases hfragments : fragmentsOf u.term with
    | nil =>
      have hrest := ih t (by simpa [hfragments] using ht)
      omega
    | cons part parts =>
      simp only [hfragments, List.cons_append, List.mem_cons, List.mem_append, List.mem_map] at ht
      rcases ht with rfl | ⟨p, -, rfl⟩ | ht
      · show u.distance + skipped ≤ _
        omega
      · exact Nat.le_max_left _ _
      · have hrest := ih t ht
        omega

/-- What is left over takes up some of the positions. -/
theorem left_split_le (skipped : Nat) (l : List Spaced) :
    (split skipped l).2 ≤ skipped + (l.map distance).sum := by
  induction l generalizing skipped with
  | nil => exact Nat.le_refl _
  | cons t rest ih =>
    rw [split, List.map_cons, List.sum_cons]
    cases fragmentsOf t.term with
    | nil =>
      have hrest := ih (skipped + t.distance)
      show (split (skipped + t.distance) rest).2 ≤ _
      omega
    | cons part parts =>
      have hrest := ih 0
      show (split 0 rest).2 ≤ _
      omega

/-- Pairing adds tokens at distance zero. -/
theorem distance_le_of_mem_pair {bound : Nat} {l : List Spaced} (h : ∀ t ∈ l, t.distance ≤ bound) :
    ∀ t ∈ pair l, t.distance ≤ bound := by
  fun_induction pair l with
  | case1 t u rest ih =>
    obtain ⟨ht, hrest⟩ := List.forall_mem_cons.1 h
    exact List.forall_mem_cons.2 ⟨ht, List.forall_mem_cons.2 ⟨Nat.zero_le _, ih hrest⟩⟩
  | case2 l => exact h

end Spaced

/-! ## Positions -/

/-- A term and its position. -/
structure Located where
  term : String
  position : Nat
deriving DecidableEq, Repr

/-- Terms with their positions, where `before` is the position before the first one: each is as far behind the one
before it as its distance says. -/
def located (before : Nat) : List Spaced → List Located
  | [] => []
  | t :: rest => ⟨t.term, before + t.distance⟩ :: located (before + t.distance) rest

namespace Located

/-- Takes a term to lower case. -/
def lower (t : Located) : Located := { t with term := lowercased t.term }

/-- Puts the concatenation of every two neighbours between the two, at the position of the first. -/
def pair : List Located → List Located
  | t :: u :: rest => t :: ⟨t.term ++ u.term, t.position⟩ :: pair (u :: rest)
  | l => l

end Located

theorem located_append (before : Nat) (l m : List Spaced) :
    located before (l ++ m) = located before l ++ located (before + (l.map Spaced.distance).sum) m := by
  induction l generalizing before with
  | nil => rfl
  | cons t rest ih =>
    rw [List.cons_append, located, located, ih, List.map_cons, List.sum_cons, ← Nat.add_assoc]
    rfl

theorem located_lower (before : Nat) (l : List Spaced) :
    located before (l.map Spaced.lower) = (located before l).map Located.lower := by
  induction l generalizing before with
  | nil => rfl
  | cons t rest ih =>
    rw [List.map_cons, located, located, List.map_cons, ← ih]
    rfl

/-- A concatenation stands where the first of its two terms stands. -/
theorem located_pair (before : Nat) (l : List Spaced) :
    located before (Spaced.pair l) = Located.pair (located before l) := by
  fun_induction Spaced.pair l generalizing before with
  | case1 t u rest ih =>
    rw [located, located, Nat.add_zero, ih]
    rfl
  | case2 l h =>
    rcases l with _ | ⟨t, _ | ⟨u, rest⟩⟩
    · rfl
    · rfl
    · exact absurd rfl (h t u rest)

/-! ## Positions of fragments -/

theorem map_mapIdx {α β γ : Type} (f : β → γ) (g : Nat → α → β) (l : List α) :
    (l.mapIdx g).map f = l.mapIdx fun i x => f (g i x) := by
  simp [List.mapIdx_eq_zipIdx_map]

/-- The fragments that follow one another at distance one. -/
theorem located_fragments (before : Nat) (fragments : List String) :
    located before (fragments.map (⟨·, 1⟩)) = fragments.mapIdx fun j fragment => ⟨fragment, before + 1 + j⟩ := by
  induction fragments generalizing before with
  | nil => rfl
  | cons fragment rest ih =>
    rw [List.map_cons, located, ih, List.mapIdx_cons]
    simp only [Nat.add_zero, List.cons.injEq, true_and]
    refine List.mapIdx_eq_mapIdx_iff.2 fun j hj => ?_
    rw [Nat.add_assoc (before + 1) 1 j, Nat.add_comm 1 j]

/-- The fragments of words, behind the position `before`: a word adds one position, and what it gains. -/
def fragmentsBehind (before : Nat) (words : List String) : List Located :=
  (words.mapIdx fun k word => (fragmentsOf word).mapIdx fun j fragment =>
    (⟨fragment, before + (k + 1) + gained (words.take k) + j⟩ : Located)).flatten

theorem fragmentsBehind_cons (before : Nat) (word : String) (words : List String) :
    fragmentsBehind before (word :: words) =
      ((fragmentsOf word).mapIdx fun j fragment => ⟨fragment, before + 1 + j⟩) ++
        fragmentsBehind (before + 1 + (fragmentCount word - 1)) words := by
  have hword : ∀ k, before + (k + 1 + 1) + gained ((word :: words).take (k + 1)) =
      before + 1 + (fragmentCount word - 1) + (k + 1) + gained (words.take k) := by
    intro k
    rw [List.take_succ_cons, gained_cons]
    omega
  rw [fragmentsBehind, List.mapIdx_cons, List.flatten_cons]
  simp only [hword]
  rfl

/-- **Where the fragments of words stand.** Positions that are skipped come before the next fragment, wherever that
is. -/
theorem located_split (before skipped : Nat) (words : List String) :
    located before (Spaced.split skipped (words.map (⟨·, 1⟩))).1 = fragmentsBehind (before + skipped) words := by
  induction words generalizing before skipped with
  | nil => rfl
  | cons word rest ih =>
    rw [List.map_cons, Spaced.split, fragmentsBehind_cons, fragmentCount]
    cases fragmentsOf word with
    | nil =>
      simp only [ih, List.mapIdx_nil, List.nil_append, List.length_nil, Nat.zero_sub, Nat.add_zero, Nat.add_assoc]
    | cons part parts =>
      -- what was skipped may as well come before the fragments
      have hfirst : ∀ more, located before (⟨part, 1 + skipped⟩ :: parts.map (⟨·, 1⟩) ++ more) =
          located (before + skipped) ((part :: parts).map (⟨·, 1⟩) ++ more) := by
        intro more
        rw [List.map_cons, List.cons_append, List.cons_append, located, located, ← Nat.add_assoc,
          Nat.add_right_comm before 1 skipped]
      have hsum : (((part :: parts).map fun p => (⟨p, 1⟩ : Spaced)).map Spaced.distance).sum =
          1 + ((part :: parts).length - 1) := by
        simp [Function.comp_def, Nat.add_comm]
      rw [hfirst, located_append, located_fragments, ih, hsum, ← Nat.add_assoc]
      rfl

/-! ## Positions in search fields -/

namespace SearchField

/-- **Where the tokens of a text stand.** Fragment `j` of word `k` stands at `k + 1`, and as many positions further as
the words before it gain, and `j`; so a word of symbols alone still takes up one position. The concatenation of two
neighbours stands where the first of them stands. -/
theorem located_tokens_after (texts : List String) (text : String)
    (h : (Unicode.words text.toList).length < UInt32.size) :
    let words := (Unicode.words text.toList).map String.ofList
    located 0 (((after texts).tokens text).1.map Token.spaced) =
      Located.pair (words.mapIdx fun k word => (fragmentsOf word).mapIdx fun j fragment =>
        (⟨lowercased fragment, (k + 1) + gained (words.take k) + j⟩ : Located)).flatten := by
  intro words
  let split := (Spaced.split 0 (words.map (⟨·, 1⟩))).1
  have htokens : ((after texts).tokens text).1 = (Spaced.pair (split.map Spaced.lower)).map Spaced.token :=
    (ready_after texts).tokens_fst text
  have hsum : ((words.map fun word => (⟨word, 1⟩ : Spaced)).map Spaced.distance).sum = words.length := by
    simp [Function.comp_def]
  have hwords : words.length < UInt32.size := by simpa [words] using h
  -- no distance wraps
  have hsplit : ∀ t ∈ split.map Spaced.lower, t.distance ≤ max 1 words.length := by
    rw [List.forall_mem_map]
    intro t ht
    have hle := Spaced.distance_le_of_mem_split t ht
    rwa [hsum, Nat.zero_add] at hle
  have hfits : ∀ t ∈ Spaced.pair (split.map Spaced.lower), t.token.spaced = t := fun t ht =>
    Spaced.spaced_token (Nat.lt_of_le_of_lt (Spaced.distance_le_of_mem_pair hsplit t ht)
      (Nat.max_lt.2 ⟨by decide, hwords⟩))
  calc located 0 (((after texts).tokens text).1.map Token.spaced)
      = located 0 (Spaced.pair (split.map Spaced.lower)) := by
        rw [htokens, List.map_map]
        exact congrArg (located 0) (List.map_congr_left hfits |>.trans (List.map_id _))
    _ = Located.pair ((fragmentsBehind 0 words).map Located.lower) := by
        rw [located_pair, located_lower, located_split]
    _ = _ := by
        simp only [fragmentsBehind, List.map_flatten, map_mapIdx, Nat.zero_add]
        rfl

theorem located_tokens_after_cat :
    (Unicode.words "bob & cat-dog".toList).length < UInt32.size ∧
      located 0 (((after ["log4j"]).tokens "bob & cat-dog").1.map Token.spaced) =
        [⟨"bob", 1⟩, ⟨"bobcat", 1⟩, ⟨"cat", 3⟩, ⟨"catdog", 3⟩, ⟨"dog", 4⟩] :=
  have h : (Unicode.words "bob & cat-dog".toList).length < UInt32.size := by decide +kernel
  ⟨h, (located_tokens_after ["log4j"] "bob & cat-dog" h).trans (by decide +kernel)⟩

end SearchField

end DependencyEvidence
