import DependencyEvidence.Text.Stream
import Mathlib.Data.List.Basic

/-!
# Maximal runs

`Text.runs` finds its runs in one pass, with the run that is being read on a stack. They are the pieces between the
separators, without the empty ones (`runs_eq_splitOnP`). So

* a separator parts the runs before it from those behind it (`runs_append_cons`);
* runs of runs are runs: what is cut at some characters first, and then at more of them, is cut at all of them
  (`flatMap_runs_runs`).

`alphanumericRuns` are the runs of ASCII letters and digits. On them the lower case of whole texts, with all its rules
for other scripts, is the lower case of each letter (`lowercaseText_of_alphanumeric`).
-/

namespace DependencyEvidence

namespace Text

/-! ## Runs between separators -/

section Separators

variable {sep sep' : Char → Bool}

theorem runsFrom_eq_splitOnP (sep : Char → Bool) (run text : List Char) :
    runsFrom sep run text = ((text.splitOnP sep).modifyHead (run.reverse ++ ·)).filter (!·.isEmpty) := by
  induction text generalizing run with
  | nil => cases run <;> simp [runsFrom, List.splitOnP_nil]
  | cons c rest ih =>
    obtain ⟨p, more, hp⟩ := List.exists_cons_of_ne_nil (List.splitOnP_ne_nil sep rest)
    rw [runsFrom, List.splitOnP_cons_eq_if_modifyHead]
    cases hc : sep c with
    | true => cases run <;> simp [ih, hp]
    | false => simp [ih, hp]

/-- The runs are the pieces between the separators that are not empty. -/
theorem runs_eq_splitOnP (sep : Char → Bool) (text : List Char) :
    runs sep text = (text.splitOnP sep).filter (!·.isEmpty) := by
  obtain ⟨p, more, hp⟩ := List.exists_cons_of_ne_nil (List.splitOnP_ne_nil sep text)
  rw [runs, runsFrom_eq_splitOnP, hp]
  rfl

theorem ne_nil_of_mem_runs {text run : List Char} (h : run ∈ runs sep text) : run ≠ [] := by
  rw [runs_eq_splitOnP, List.mem_filter] at h
  simpa using h.2

/-- No run holds a separator. -/
theorem not_sep_of_mem_runs {text run : List Char} (h : run ∈ runs sep text) : ∀ c ∈ run, sep c = false := by
  suffices hfrom : ∀ before : List Char, (∀ c ∈ before, sep c = false) →
      ∀ r ∈ runsFrom sep before text, ∀ c ∈ r, sep c = false from hfrom [] (by simp) run h
  clear h
  induction text with
  | nil =>
    intro before hbefore r hr c hc
    have hlast : r = before.reverse := by cases before <;> simp_all [runsFrom]
    rw [hlast, List.mem_reverse] at hc
    exact hbefore c hc
  | cons a rest ih =>
    intro before hbefore r hr
    rw [runsFrom] at hr
    cases ha : sep a with
    | true =>
      have hend : r = before.reverse ∨ r ∈ runsFrom sep [] rest := by cases before <;> simp_all
      rcases hend with rfl | hr
      · intro c hc
        exact hbefore c (List.mem_reverse.1 hc)
      · exact ih [] (by simp) r hr
    | false =>
      rw [if_neg (by simp [ha])] at hr
      refine ih (a :: before) (fun c hc => ?_) r hr
      rcases List.mem_cons.1 hc with rfl | hc
      · exact ha
      · exact hbefore c hc

/-- A separator parts the runs before it from those behind it. -/
theorem runs_append_cons {c : Char} (hc : sep c = true) (before after : List Char) :
    runs sep (before ++ c :: after) = runs sep before ++ runs sep after := by
  rw [runs_eq_splitOnP, runs_eq_splitOnP, runs_eq_splitOnP, List.splitOnP_append_cons before after hc,
    List.filter_append]

/-- **Runs of runs are runs**: what is cut at some characters, and then at these and others, is cut at all of them. -/
theorem flatMap_runs_runs (h : ∀ c, sep' c = true → sep c = true) (text : List Char) :
    (runs sep' text).flatMap (runs sep) = runs sep text := by
  -- the run that is being read stands in front: the first cut has found nothing in it
  suffices hfrom : ∀ run : List Char, (runsFrom sep' run text).flatMap (runs sep) = runs sep (run.reverse ++ text) from
    hfrom []
  induction text with
  | nil =>
    intro run
    cases run with
    | nil => rfl
    | cons a run => simp [runsFrom]
  | cons c rest ih =>
    intro run
    rw [runsFrom]
    cases hc : sep' c with
    | true =>
      have hrest : (runsFrom sep' [] rest).flatMap (runs sep) = runs sep rest := ih []
      rw [runs_append_cons (h c hc)]
      cases run with
      | nil => exact hrest
      | cons a run => exact congrArg (runs sep (a :: run).reverse ++ ·) hrest
    | false => simpa using ih (c :: run)

end Separators

/-! ## Letters and digits -/

/-- The maximal runs of ASCII letters and digits. -/
def alphanumericRuns (text : List Char) : List (List Char) :=
  (text.splitOnP (!isAlphanumeric ·)).filter (!·.isEmpty)

/-- What holds of all letters and digits can be checked on the 128 characters of ASCII. -/
theorem of_isAlphanumeric {P : Char → Prop}
    (h : ∀ n : Fin 128, isAlphanumeric (Char.ofNat n) = true → P (Char.ofNat n)) {c : Char}
    (hc : isAlphanumeric c = true) : P c := by
  have hlt : c.toNat < 128 := by
    have hranges : (decide (c.val ≥ 65 ∧ c.val ≤ 90) || c.val ≥ 97 && c.val ≤ 122 ||
        c.val ≥ 48 && c.val ≤ 57) = true := hc
    simp only [Bool.or_eq_true, Bool.and_eq_true, decide_eq_true_eq, ge_iff_le, UInt32.le_iff_toNat_le] at hranges
    have hval : c.toNat = c.val.toNat := rfl
    simp at hranges
    omega
  have hn := h ⟨c.toNat, hlt⟩
  rw [Char.ofNat_toNat] at hn
  exact hn hc

theorem not_alphanumeric_of_isBlank {c : Char} (hc : Unicode.isBlank c = true) : isAlphanumeric c = false := by
  rw [← Bool.not_eq_true]
  intro h
  have hnot : Unicode.isBlank c = false := of_isAlphanumeric (P := (Unicode.isBlank · = false)) (by decide +kernel) h
  exact Bool.false_ne_true (hnot.symm.trans hc)

theorem runs_not_alphanumeric : (runs fun c => !isAlphanumeric c) = alphanumericRuns := funext (runs_eq_splitOnP _)

/-- The alphanumeric runs of a text's words are those of the text. -/
theorem flatMap_words (text : List Char) : (Unicode.words text).flatMap alphanumericRuns = alphanumericRuns text := by
  have hblank : ∀ c, Unicode.isBlank c = true → (!isAlphanumeric c) = true := by
    intro c hc
    rw [not_alphanumeric_of_isBlank hc]
    rfl
  have hruns := flatMap_runs_runs hblank text
  rwa [runs_not_alphanumeric] at hruns

theorem ne_nil_of_mem_alphanumericRuns {text run : List Char} (h : run ∈ alphanumericRuns text) : run ≠ [] :=
  ne_nil_of_mem_runs (runs_not_alphanumeric ▸ h)

theorem alphanumeric_of_mem_runs {text run : List Char} (h : run ∈ alphanumericRuns text) :
    ∀ c ∈ run, isAlphanumeric c = true := by
  intro c hc
  rw [← runs_not_alphanumeric] at h
  simpa using not_sep_of_mem_runs h c hc

/-- Letters and digits without anything between them are one run. -/
theorem alphanumericRuns_of_alphanumeric {run : List Char} (hne : run ≠ []) (h : ∀ c ∈ run, isAlphanumeric c = true) :
    alphanumericRuns run = [run] := by
  have hwhole : run.splitOnP (!isAlphanumeric ·) = [run] := by
    refine List.splitOnP_eq_singleton fun c hc => ?_
    simp [h c hc]
  rw [alphanumericRuns, hwhole]
  simp [hne]

/-! ## Lower case -/

theorem toLower_of_alphanumeric {c : Char} (hc : isAlphanumeric c = true) :
    c.toLower.isLower = true ∨ c.toLower.isDigit = true :=
  of_isAlphanumeric (P := fun c => c.toLower.isLower = true ∨ c.toLower.isDigit = true) (by decide +kernel) hc

/-- A letter or digit in lower case is one still, and has no other lower case. -/
theorem toLower_alphanumeric {c : Char} (hc : isAlphanumeric c = true) :
    isAlphanumeric c.toLower = true ∧ c.toLower.toLower = c.toLower :=
  of_isAlphanumeric (P := fun c => isAlphanumeric c.toLower = true ∧ c.toLower.toLower = c.toLower)
    (by decide +kernel) hc

theorem lowercase_of_alphanumeric {c : Char} (hc : isAlphanumeric c = true) :
    Unicode.lowercase c = [c.toLower] ∧ c ≠ 'Σ' :=
  of_isAlphanumeric (P := fun c => Unicode.lowercase c = [c.toLower] ∧ c ≠ 'Σ') (by decide +kernel) hc

/-- To letters and digits, the lower case of a text is that of each character. -/
theorem lowercaseText_of_alphanumeric {text : List Char} (h : ∀ c ∈ text, isAlphanumeric c = true) :
    Unicode.lowercaseText text = text.map Char.toLower := by
  suffices hafter : ∀ before, Unicode.lowercaseAfter before text = text.map Char.toLower from hafter []
  induction text with
  | nil => exact fun _ => rfl
  | cons c rest ih =>
    intro before
    obtain ⟨hc, hrest⟩ := List.forall_mem_cons.1 h
    obtain ⟨hlower, hsigma⟩ := lowercase_of_alphanumeric hc
    rw [Unicode.lowercaseAfter, if_neg hsigma, hlower, ih hrest]
    rfl

end Text

end DependencyEvidence
