import DependencyEvidence.Proofs.Text.Terms
import DependencyEvidence.Report

/-!
# Terms of reports

One analyzer of search fields serves both axes of all records of a report. No record notices the others, since the
analyzer is ready for each text as it was for the first (`ofDependencies_eq_map`).

The text of an axis is made of the values of its evidence, with a blank between every two. The blank parts their runs, so
that the runs of the text are those of the values, one value after another (`baseTerms_text`). These are the terms at
even places, and their concatenations those at odd places (`evenPlaced_withNeighbours`, `oddPlaced_withNeighbours`). A
run is its own only run (`baseTerms_of_mem`), which is why the terms can be found again from those at even places.
-/

namespace DependencyEvidence

/-! ## Places of a list -/

/-- The elements at the places 0, 2, 4 and so on. -/
def evenPlaced {α : Type} : List α → List α
  | a :: _ :: rest => a :: evenPlaced rest
  | l => l

/-- The elements at the places 1, 3, 5 and so on. -/
def oddPlaced {α : Type} (l : List α) : List α := evenPlaced l.tail

theorem evenPlaced_cons {α : Type} (a : α) (l : List α) : evenPlaced (a :: l) = a :: oddPlaced l := by
  cases l with
  | nil => rfl
  | cons b rest => rfl

theorem evenPlaced_withNeighbours (terms : List String) : evenPlaced (withNeighbours terms) = terms := by
  fun_induction withNeighbours terms with
  | case1 a b rest ih => rw [evenPlaced, ih]
  | case2 terms h =>
    rcases terms with _ | ⟨a, _ | ⟨b, rest⟩⟩
    · rfl
    · rfl
    · exact absurd rfl (h a b rest)

theorem oddPlaced_withNeighbours (terms : List String) :
    oddPlaced (withNeighbours terms) = List.zipWith (· ++ ·) terms terms.tail := by
  fun_induction withNeighbours terms with
  | case1 a b rest ih =>
    have hodd : oddPlaced (a :: (a ++ b) :: withNeighbours (b :: rest)) =
        (a ++ b) :: oddPlaced (withNeighbours (b :: rest)) := evenPlaced_cons _ _
    rw [hodd, ih]
    rfl
  | case2 terms h =>
    rcases terms with _ | ⟨a, _ | ⟨b, rest⟩⟩
    · rfl
    · rfl
    · exact absurd rfl (h a b rest)

/-! ## Runs of joined texts -/

namespace Text

/-- The terms of a text without their neighbours: its runs of ASCII letters and digits in lower case. -/
def baseTerms (text : List Char) : List String :=
  (alphanumericRuns text).map fun run => String.ofList (run.map Char.toLower)

/-- A blank parts the runs before it from those behind it. -/
theorem alphanumericRuns_append_blank (before after : List Char) :
    alphanumericRuns (before ++ ' ' :: after) = alphanumericRuns before ++ alphanumericRuns after := by
  have hblank : (!isAlphanumeric ' ') = true := by decide
  have hparted := @runs_append_cons (fun c => !isAlphanumeric c) ' ' hblank before after
  rwa [runs_not_alphanumeric] at hparted

/-- The terms of texts with blanks between them are those of each text. -/
theorem baseTerms_intercalate (texts : List String) :
    baseTerms (" ".intercalate texts).toList = texts.flatMap fun t => baseTerms t.toList := by
  induction texts with
  | nil => simp [baseTerms, alphanumericRuns]
  | cons t rest ih =>
    cases rest with
    | nil => simp
    | cons u rest =>
      have hjoined : (" ".intercalate (t :: u :: rest)).toList =
          t.toList ++ ' ' :: (" ".intercalate (u :: rest)).toList := by
        rw [String.intercalate_cons_cons]
        simp
      rw [hjoined, List.flatMap_cons, ← ih]
      simp only [baseTerms, alphanumericRuns_append_blank, List.map_append]

/-- A term is its own only term. -/
theorem baseTerms_of_mem {text : List Char} {term : String} (h : term ∈ baseTerms text) :
    baseTerms term.toList = [term] := by
  obtain ⟨run, hrun, rfl⟩ := List.mem_map.1 h
  have halphanumeric := alphanumeric_of_mem_runs hrun
  have hlower : ∀ c ∈ run.map Char.toLower, isAlphanumeric c = true := by
    intro c hc
    obtain ⟨b, hb, rfl⟩ := List.mem_map.1 hc
    exact (toLower_alphanumeric (halphanumeric b hb)).1
  have hne : run.map Char.toLower ≠ [] := by
    simpa using ne_nil_of_mem_alphanumericRuns hrun
  have htwice : (run.map Char.toLower).map Char.toLower = run.map Char.toLower := by
    rw [List.map_map]
    exact List.map_congr_left fun c hc => (toLower_alphanumeric (halphanumeric c hc)).2
  rw [String.toList_ofList, baseTerms, alphanumericRuns_of_alphanumeric hne hlower, List.map_singleton, htwice]

/-- Terms with blanks between them have these terms. -/
theorem baseTerms_intercalate_self {terms : List String} (h : ∀ t ∈ terms, ∃ text, t ∈ baseTerms text) :
    baseTerms (" ".intercalate terms).toList = terms := by
  rw [baseTerms_intercalate]
  have hself : (terms.flatMap fun t => baseTerms t.toList) = terms.flatMap fun t => [t] := by
    refine List.flatMap_congr fun t ht => ?_
    obtain ⟨text, htext⟩ := h t ht
    exact baseTerms_of_mem htext
  rw [hself, List.flatMap_singleton']

end Text

theorem SearchField.Ready.terms_eq {a : SearchField} (h : a.Ready) (text : String) :
    (a.terms text).1 = withNeighbours (Text.baseTerms text.toList) := by
  rw [h.terms_fst, lowercased_fragments]
  rfl

/-! ## Terms of an axis -/

namespace Collection

/-- The terms of all values of a collection, one value after another. -/
def valueTerms (c : Collection) : List String := c.entries.flatMap fun e => Text.baseTerms e.value.toList

/-- The text of a collection has the terms of its values. -/
theorem baseTerms_text (c : Collection) : Text.baseTerms (c.text .low).toList = c.valueTerms := by
  have hall : c.atLeast .low = c.entries := by
    refine List.filter_eq_self.2 fun e _ => ?_
    cases e.confidence <;> rfl
  rw [text, hall, Text.baseTerms_intercalate, List.flatMap_map]
  rfl

/-- Whether terms are those of a collection: at even places stand those of its values, one value after another, and at
odd places the concatenations of the two beside them. They are found again from those at even places. -/
structure HasTerms (c : Collection) (terms : List String) : Prop where
  even : evenPlaced terms = c.entries.flatMap fun e => Text.baseTerms e.value.toList
  odd : oddPlaced terms = List.zipWith (· ++ ·) (evenPlaced terms) (evenPlaced terms).tail
  again (texts : List String) : ((SearchField.after texts).terms (" ".intercalate (evenPlaced terms))).1 = terms

theorem hasTerms_valueTerms (c : Collection) : c.HasTerms (withNeighbours c.valueTerms) := by
  have hself : Text.baseTerms (" ".intercalate c.valueTerms).toList = c.valueTerms := by
    refine Text.baseTerms_intercalate_self fun t ht => ?_
    obtain ⟨e, -, hterm⟩ := List.mem_flatMap.1 ht
    exact ⟨e.value.toList, hterm⟩
  constructor
  · exact evenPlaced_withNeighbours _
  · rw [evenPlaced_withNeighbours, oddPlaced_withNeighbours]
  · intro texts
    rw [evenPlaced_withNeighbours, (SearchField.ready_after texts).terms_eq, hself]

end Collection

/-! ## Terms of records -/

namespace Resolved

/-- A dependency with the terms of its vendors and products. -/
def ofValues (d : Dependency) : Resolved where
  dependency := d
  vendorTerms := withNeighbours d.vendor.valueTerms
  productTerms := withNeighbours d.product.valueTerms

variable {a : SearchField}

/-- An analyzer that is ready finds the terms of a dependency, and is ready for the next one. -/
theorem ofDependency_of_ready (h : a.Ready) (d : Dependency) :
    (ofDependency a d).1 = ofValues d ∧ (ofDependency a d).2.Ready := by
  have hnext := h.terms (d.vendor.text .low)
  have hvendor := h.terms_eq (d.vendor.text .low)
  have hproduct := hnext.terms_eq (d.product.text .low)
  rw [Collection.baseTerms_text] at hvendor hproduct
  refine ⟨?_, hnext.terms _⟩
  rw [ofValues, ← hvendor, ← hproduct]
  rfl

/-- Each dependency has its own terms, whatever stands before it. -/
theorem ofDependencies_eq_map (h : a.Ready) (ds : List Dependency) : ofDependencies a ds = ds.map ofValues := by
  induction ds generalizing a with
  | nil => rfl
  | cons d rest ih =>
    obtain ⟨hfirst, hnext⟩ := ofDependency_of_ready h d
    have hstep : ofDependencies a (d :: rest) =
        (ofDependency a d).1 :: ofDependencies (ofDependency a d).2 rest := rfl
    rw [hstep, hfirst, ih hnext, List.map_cons]

/-- **The terms of a record are those of its values.** The records of a report have the terms that each of them would
have alone. On both axes these are, at even places, the runs of ASCII letters and digits in lower case of one value after
another, and at odd places the concatenations of neighbours. The terms at even places, with blanks between them, have the
same terms. -/
theorem ofDependencies_terms (ds : List Dependency) :
    ofDependencies .new ds = ds.map (fun d => (ofDependency .new d).1) ∧
      ∀ r ∈ ofDependencies .new ds,
        r.dependency.vendor.HasTerms r.vendorTerms ∧ r.dependency.product.HasTerms r.productTerms := by
  have hall := ofDependencies_eq_map SearchField.ready_new ds
  constructor
  · rw [hall]
    exact List.map_congr_left fun d _ => (ofDependency_of_ready SearchField.ready_new d).1.symm
  · intro r hr
    rw [hall] at hr
    obtain ⟨d, -, rfl⟩ := List.mem_map.1 hr
    exact ⟨d.vendor.hasTerms_valueTerms, d.product.hasTerms_valueTerms⟩

example :
    let value (v : String) : Evidence := ⟨"jar", "name", v, .low⟩
    let d := { Dependency.ofPath ⟨"a.jar"⟩ with vendor := .ofList [value "Apache", value "--", value "Tomcat\u30007"] }
    (ofDependency .new d).1.vendorTerms = ["apache", "apachetomcat", "tomcat", "tomcat7", "7"] := by
  decide +kernel

end Resolved

end DependencyEvidence
