import DependencyEvidence.Analysis.Merge
import DependencyEvidence.Hints.Rule
import DependencyEvidence.Proofs.Text.Passes

/-!
# Lower case and identity

Comparisons that ignore case take each character to lower case by itself, while the filter for lower case takes whole
terms. The two differ where the rule for whole texts looks beside a character, at a capital sigma that ends a word.

* A character in lower case has no other lower case (`lowercase_of_mem`). This is read off the table: no run covers what
  some run moves (`CaseRun.avoids`).
* `lowercaseEach_lowercaseText`: so each character by itself, a text in lower case has the lower case of the text,
  unless a capital sigma ends a word. The `ς` that is left then is in lower case already, and it is not `σ`.

From this follows which terms the filter leaves alike to all comparisons (`Stream.lowercase_interchangeable`).
-/

namespace DependencyEvidence

namespace Unicode

/-! ## The table of runs -/

namespace CaseRun

/-- Whether what a run moves comes to lie where another run covers nothing: before it, behind it, or between the code
points that it covers. -/
def avoids (r s : CaseRun) : Bool :=
  Nat.blt (r.target r.last) s.first || Nat.blt s.last (r.target r.first) ||
    (r.step == 2 || r.first == r.last) && s.step == 2 && r.target r.first % 2 != s.first % 2

/-- Whether a run moves code points to code points of characters. -/
def lands (r : CaseRun) : Bool :=
  0 ≤ r.first + r.shift && (r.target r.last < 0xD800 || 0xDFFF < r.target r.first && r.target r.last < 0x110000)

variable {r s : CaseRun} {n : Nat}

theorem covers_iff : r.covers n = true ↔ r.first ≤ n ∧ n ≤ r.last ∧ (n - r.first) % r.step = 0 := by
  simp [covers, and_assoc]

/-- A run keeps distances. -/
theorem target_eq (hland : r.lands = true) (hn : r.first ≤ n) : r.target n = r.target r.first + (n - r.first) := by
  have hshift : 0 ≤ r.first + r.shift := of_decide_eq_true (Bool.and_eq_true_iff.1 hland).1
  unfold target
  omega

theorem isValidChar_target (hland : r.lands = true) (hn : r.covers n = true) : (r.target n).isValidChar := by
  obtain ⟨hfirst, hlast, -⟩ := covers_iff.1 hn
  have htarget := target_eq hland hfirst
  have hend := target_eq hland (Nat.le_trans hfirst hlast)
  simp only [lands, Bool.and_eq_true, Bool.or_eq_true, decide_eq_true_eq] at hland
  unfold Nat.isValidChar
  omega

theorem not_covers_target (hland : r.lands = true) (h : r.avoids s = true) (hn : r.covers n = true) :
    s.covers (r.target n) = false := by
  obtain ⟨hfirst, hlast, hstep⟩ := covers_iff.1 hn
  have htarget := target_eq hland hfirst
  have hend := target_eq hland (Nat.le_trans hfirst hlast)
  rw [← Bool.not_eq_true, covers_iff]
  rintro ⟨hsfirst, hslast, hsstep⟩
  simp only [avoids, Bool.or_eq_true, Bool.and_eq_true, Nat.blt_eq, beq_iff_eq, bne_iff_ne] at h
  rcases h with (hbefore | hbehind) | ⟨⟨hsteps, htwo⟩, hodd⟩
  · omega
  · omega
  · rw [htwo] at hsstep
    rcases hsteps with htwo | hone
    · rw [htwo] at hstep
      omega
    · omega

end CaseRun

/-- No run covers what some run moves. -/
theorem avoids_of_mem {r s : CaseRun} (hr : r ∈ lowercaseRuns) (hs : s ∈ lowercaseRuns) : r.avoids s = true := by
  have hall : (lowercaseRuns.all fun r => lowercaseRuns.all r.avoids) = true := by decide +kernel
  exact List.all_eq_true.1 (List.all_eq_true.1 hall r hr) s hs

/-- Runs move characters to characters, and to none that has its own rule. -/
theorem lands_of_mem {r : CaseRun} (hr : r ∈ lowercaseRuns) :
    r.lands = true ∧ r.avoids ⟨'İ'.toNat, 'İ'.toNat, 1, 0⟩ = true := by
  have hall : (lowercaseRuns.all fun r => r.lands && r.avoids ⟨'İ'.toNat, 'İ'.toNat, 1, 0⟩) = true := by
    decide +kernel
  exact Bool.and_eq_true_iff.1 (List.all_eq_true.1 hall r hr)

/-! ## Lower case of lower case -/

theorem lowercase_of_ne {c : Char} (hc : c ≠ 'İ') : lowercase c = [lowercaseChar c] := if_neg hc

/-- A character that a run moves to has no other lower case. -/
theorem lowercase_target {r : CaseRun} {c : Char} (hr : r ∈ lowercaseRuns) (hc : r.covers c.toNat = true) :
    lowercase (Char.ofNat (r.target c.toNat)) = [Char.ofNat (r.target c.toNat)] := by
  obtain ⟨hland, hown⟩ := lands_of_mem hr
  have hval : (Char.ofNat (r.target c.toNat)).toNat = r.target c.toNat := by
    rw [Char.ofNat, dif_pos (CaseRun.isValidChar_target hland hc)]
    rfl
  have hnone : lowercaseRuns.find? (·.covers (Char.ofNat (r.target c.toNat)).toNat) = none := by
    rw [List.find?_eq_none, hval]
    intro s hs
    rw [CaseRun.not_covers_target hland (avoids_of_mem hr hs) hc]
    exact Bool.false_ne_true
  have hne : Char.ofNat (r.target c.toNat) ≠ 'İ' := by
    intro heq
    have hcovers := CaseRun.not_covers_target hland hown hc
    rw [← hval, heq] at hcovers
    exact absurd hcovers (by decide)
  rw [lowercase_of_ne hne, lowercaseChar, hnone]

/-- **A character in lower case has no other lower case.** -/
theorem lowercase_of_mem {c d : Char} (h : d ∈ lowercase c) : lowercase d = [d] := by
  by_cases hc : c = 'İ'
  · rw [hc, lowercase, if_pos rfl] at h
    rcases List.mem_cons.1 h with rfl | h
    · decide +kernel
    · rw [List.mem_singleton.1 h]
      decide +kernel
  · rw [lowercase_of_ne hc, List.mem_singleton] at h
    cases hfind : lowercaseRuns.find? (·.covers c.toNat) with
    | none =>
      have hsame : lowercaseChar c = c := by rw [lowercaseChar, hfind]
      rw [h, hsame, lowercase_of_ne hc, hsame]
    | some r =>
      have hmoved : lowercaseChar c = Char.ofNat (r.target c.toNat) := by rw [lowercaseChar, hfind]
      have hcovers := List.find?_some hfind
      rw [h, hmoved]
      exact lowercase_target (List.mem_of_find?_eq_some hfind) hcovers

theorem lowercaseEach_lowercase (c : Char) : lowercaseEach (lowercase c) = lowercase c := by
  rw [lowercaseEach, List.flatMap_congr fun d hd => lowercase_of_mem hd, List.flatMap_singleton']

/-! ## Whole texts -/

/-- Whether a capital sigma ends a word of the text. -/
def HasFinalSigma (text : List Char) : Prop :=
  ∃ before after, text = before ++ 'Σ' :: after ∧ endsWord before.reverse after = true

theorem lowercaseEach_append (text more : List Char) :
    lowercaseEach (text ++ more) = lowercaseEach text ++ lowercaseEach more := List.flatMap_append

/-- Each character by itself, what a sigma has become has the lower case of a sigma, unless it is `ς`. -/
theorem lowercaseEach_sigma (final : Bool) :
    lowercaseEach [if final then 'ς' else 'σ'] = lowercase 'Σ' ↔ final = false := by
  cases final <;> decide +kernel

/-- The places of a character in a text that begins with another one. -/
theorem forall_eq_append_cons_iff {P : List Char → List Char → Prop} {c d : Char} {text : List Char} :
    (∀ front after, c :: text = front ++ d :: after → P front after) ↔
      (c = d → P [] text) ∧ ∀ front after, text = front ++ d :: after → P (c :: front) after := by
  constructor
  · intro h
    exact ⟨fun hc => h [] text (hc ▸ rfl), fun front after htext => h (c :: front) after (htext ▸ rfl)⟩
  · rintro ⟨hfirst, hlater⟩ front after htext
    cases front with
    | nil =>
      obtain ⟨hc, rfl⟩ := List.cons.inj htext
      exact hfirst hc
    | cons b front =>
      obtain ⟨rfl, hrest⟩ := List.cons.inj htext
      exact hlater front after hrest

/-- Behind another text, a text and its lower case are the same to each character by itself, if no sigma ends a word. -/
theorem lowercaseEach_lowercaseAfter (before text : List Char) :
    lowercaseEach (lowercaseAfter before text) = lowercaseEach text ↔
      ∀ front after, text = front ++ 'Σ' :: after → endsWord (front.reverse ++ before) after = false := by
  induction text generalizing before with
  | nil => simp [lowercaseAfter, lowercaseEach]
  | cons c rest ih =>
    have htext : lowercaseEach (c :: rest) = lowercase c ++ lowercaseEach rest := rfl
    rw [forall_eq_append_cons_iff, lowercaseAfter, lowercaseEach_append, htext]
    simp only [List.reverse_cons, List.append_assoc, List.singleton_append, List.reverse_nil, List.nil_append]
    rw [← ih]
    by_cases hc : c = 'Σ'
    · subst hc
      rw [if_pos rfl]
      have hlength : (lowercaseEach [if endsWord before rest then 'ς' else 'σ']).length = (lowercase 'Σ').length := by
        cases endsWord before rest <;> decide +kernel
      constructor
      · intro heq
        obtain ⟨hpiece, hrest⟩ := List.append_inj heq hlength
        exact ⟨fun _ => (lowercaseEach_sigma _).1 hpiece, hrest⟩
      · rintro ⟨hinner, hrest⟩
        rw [(lowercaseEach_sigma _).2 (hinner rfl), hrest]
    · rw [if_neg hc, lowercaseEach_lowercase, List.append_cancel_left_eq]
      exact (and_iff_right fun heq => absurd heq hc).symm

/-- **A text and its lower case are the same to each character by itself, exactly if no capital sigma ends a word.** -/
theorem lowercaseEach_lowercaseText (text : List Char) :
    lowercaseEach (lowercaseText text) = lowercaseEach text ↔ ¬ HasFinalSigma text := by
  rw [lowercaseText, lowercaseEach_lowercaseAfter, HasFinalSigma]
  simp

end Unicode

/-! ## Comparisons that ignore case -/

/-- Whether no comparison that ignores case tells two texts apart. -/
structure Interchangeable (s t : String) : Prop where
  identity (e : Evidence) : { e with value := s }.identity = { e with value := t }.identity
  samePackage (d d' : Dependency) :
    samePackage { d with packagePath := some s } d' = samePackage { d with packagePath := some t } d'
  /-- As a vendor that duplications look at. -/
  copies (rules : List Duplication) (e : Evidence) :
    Duplication.copies rules { e with value := s } = Duplication.copies rules { e with value := t }
  /-- As the value of a duplication. -/
  copiesOf (duplicate : String) (e : Evidence) :
    Duplication.copies [⟨s, duplicate⟩] e = Duplication.copies [⟨t, duplicate⟩] e
  /-- As the name of a file. -/
  accepted (value : String) :
    (FilenamePattern.literal value false).accepts s = (FilenamePattern.literal value false).accepts t
  /-- As a pattern of names. -/
  accepts (fileName : String) :
    (FilenamePattern.literal s false).accepts fileName = (FilenamePattern.literal t false).accepts fileName

/-- All these comparisons look at the characters in lower case. -/
theorem interchangeable_iff {s t : String} : Interchangeable s t ↔ folded s = folded t := by
  constructor
  · intro h
    exact congrArg Identity.value (h.identity default)
  · intro h
    have hleft : ∀ u, equalIgnoringCase s u = equalIgnoringCase t u := fun u => by
      rw [equalIgnoringCase, equalIgnoringCase, h]
    have hright : ∀ u, equalIgnoringCase u s = equalIgnoringCase u t := fun u => by
      rw [equalIgnoringCase, equalIgnoringCase, h]
    refine ⟨fun e => ?_, fun d d' => ?_, fun rules e => ?_, fun duplicate e => ?_, hright, hleft⟩
    · simp only [Evidence.identity, h]
    · unfold DependencyEvidence.samePackage
      cases d'.packagePath with
      | none => rfl
      | some q => exact hleft q
    · simp only [Duplication.copies, hright]
    · simp only [Duplication.copies, List.filter_cons, List.filter_nil, hleft]
      split <;> rfl

/-! ## The filter -/

theorem folded_lowercased (t : Token) :
    folded t.term = folded t.lowercased.term ↔ ¬ Unicode.HasFinalSigma t.term.toList := by
  rw [eq_comm, folded, folded, Token.lowercased, String.toList_ofList]
  exact Unicode.lowercaseEach_lowercaseText t.term.toList

/-- The filter for lower case passes on the next token. -/
theorem Stream.next_lowercase (input : Stream) :
    (input.under .lowercase).next.1 = input.next.1.map Token.lowercased := by
  have hrest : (input.under .lowercase).rest = input.rest.map Token.lowercased := rfl
  cases h : input.rest with
  | nil =>
    rw [h] at hrest
    rw [(next_of_rest_nil h).1, (next_of_rest_nil hrest).1]
    rfl
  | cons t more =>
    rw [h] at hrest
    rw [(next_of_rest_cons h).1, (next_of_rest_cons hrest).1]
    rfl

/-- **The filter for lower case keeps what a term is equal to, unless a capital sigma ends a word.** Let a stream give a
token. Under the filter it gives one whose term is equal to that of the token up to case if and only if no capital sigma
ends a word of the term, and then no comparison that ignores case tells the two terms apart. -/
theorem Stream.lowercase_interchangeable {input : Stream} {token : Token} (h : input.next.1 = some token) :
    ∃ lowered, (input.under .lowercase).next.1 = some lowered ∧
      (equalIgnoringCase token.term lowered.term = true ↔ ¬ Unicode.HasFinalSigma token.term.toList) ∧
      (Interchangeable token.term lowered.term ↔ ¬ Unicode.HasFinalSigma token.term.toList) := by
  have hnext : (input.under .lowercase).next.1 = some token.lowercased := by
    rw [next_lowercase, h, Option.map_some]
  refine ⟨token.lowercased, hnext, ?_, ?_⟩
  · rw [equalIgnoringCase, beq_iff_eq, folded_lowercased]
  · rw [interchangeable_iff, folded_lowercased]

/-- A sigma before a full stop ends no word, if a letter follows. -/
theorem Stream.lowercase_interchangeable_odos :
    let input := Stream.ofText "ΟΔΟΣ.ΓΡ"
    input.next.1 = some (.next "ΟΔΟΣ.ΓΡ") ∧
    ∃ lowered, (input.under .lowercase).next.1 = some lowered ∧ lowered.term = "οδοσ.γρ" ∧
      Interchangeable "ΟΔΟΣ.ΓΡ" lowered.term := by
  intro input
  have hnext : input.next.1 = some (.next "ΟΔΟΣ.ΓΡ") := by decide +kernel
  have hfinal : ¬ Unicode.HasFinalSigma "ΟΔΟΣ.ΓΡ".toList :=
    (Unicode.lowercaseEach_lowercaseText _).1 (by decide +kernel)
  obtain ⟨lowered, hlowered, -, halike⟩ := lowercase_interchangeable hnext
  have hterm : (input.under .lowercase).next.1.map Token.term = some "οδοσ.γρ" := by decide +kernel
  rw [hlowered, Option.map_some] at hterm
  exact ⟨hnext, lowered, hlowered, Option.some.inj hterm, halike.2 hfinal⟩

/-- The filter changes what a term is equal to where a capital sigma ends a word. -/
theorem Stream.not_equalIgnoringCase_lowercase :
    ¬ ∀ s : String, ∃ t, ((Stream.ofList [.next s] 0).under .lowercase).next.1 = some t ∧
      equalIgnoringCase s t.term = true := by
  intro h
  obtain ⟨t, hnext, hsame⟩ := h "ΟΔΟΣ"
  have hterm : ((Stream.ofList [.next "ΟΔΟΣ"] 0).under .lowercase).next.1.map Token.term = some "οδος" := by
    decide +kernel
  rw [hnext, Option.map_some] at hterm
  rw [Option.some.inj hterm] at hsame
  exact absurd hsame (by decide +kernel)

end DependencyEvidence
