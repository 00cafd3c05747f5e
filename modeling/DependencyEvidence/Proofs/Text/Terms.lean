import DependencyEvidence.Proofs.Text.Calls
import DependencyEvidence.Text.SearchField

/-!
# Terms of search fields

An analyzer of search fields keeps its filters from text to text, and nothing else that matters (`Ready`,
`Ready.setText`). So the terms of a text are the same whatever texts were served before it (`terms_after`): its
alphanumeric runs in lower case, with their neighbours.
-/

namespace DependencyEvidence

/-! ## What a term may be -/

/-- Whether a term is spelled by lower case letters and digits, at least one of them. -/
def Searchable (term : String) : Prop := term ≠ "" ∧ ∀ c ∈ term.toList, c.isLower = true ∨ c.isDigit = true

theorem Searchable.append {s t : String} (hs : Searchable s) (ht : Searchable t) : Searchable (s ++ t) := by
  refine ⟨fun hempty => hs.1 ?_, fun c hc => ?_⟩
  · exact (String.append_eq_empty_iff.1 hempty).1
  · rw [String.toList_append, List.mem_append] at hc
    exact hc.elim (hs.2 c) (ht.2 c)

/-- An alphanumeric run in lower case can be searched for. -/
theorem searchable_run {text run : List Char} (h : run ∈ Text.alphanumericRuns text) :
    Searchable (String.ofList (run.map Char.toLower)) := by
  refine ⟨fun hempty => Text.ne_nil_of_mem_alphanumericRuns h ?_, ?_⟩
  · simpa using hempty
  · rw [String.toList_ofList, List.forall_mem_map]
    intro c hc
    exact Text.toLower_of_alphanumeric (Text.alphanumeric_of_mem_runs h c hc)

theorem searchable_withNeighbours {terms : List String} (h : ∀ t ∈ terms, Searchable t) :
    ∀ t ∈ withNeighbours terms, Searchable t := by
  fun_induction withNeighbours terms with
  | case1 a b rest ih =>
    obtain ⟨ha, hrest⟩ := List.forall_mem_cons.1 h
    obtain ⟨hb, -⟩ := List.forall_mem_cons.1 hrest
    exact List.forall_mem_cons.2 ⟨ha, List.forall_mem_cons.2 ⟨ha.append hb, ih hrest⟩⟩
  | case2 terms => exact h

/-! ## Analyzers between texts -/

namespace SearchField

/-- The analyzer that has served texts, one after another. It is the same whether their terms or their tokens were asked
for. -/
def after (texts : List String) : SearchField := texts.foldl (fun a text => (a.terms text).2) new

/-- Whether an analyzer has its filters, and words under them. -/
def Ready (a : SearchField) : Prop :=
  a.stream.filters = [.fragments, .lowercase, .pairs] ∧ ∃ tokens, a.stream.origin = .words tokens tokens

theorem ready_new : new.Ready := ⟨rfl, Stream.wordTokens "", rfl⟩

variable {a : SearchField}

/-- Another text finds the filters as they were at first. -/
theorem Ready.setText (h : a.Ready) (text : String) :
    a.stream.reset.setText text = (Stream.ofText text).stacked [.fragments, .lowercase, .pairs] := by
  obtain ⟨hfilters, tokens, horigin⟩ := h
  rw [Stream.reset_eq, horigin, hfilters, Stream.setText_stacked]
  rfl

/-- A text leaves an analyzer ready. -/
theorem Ready.terms (h : a.Ready) (text : String) : (a.terms text).2.Ready := by
  have hstream : (a.terms text).2.stream = (a.stream.reset.setText text).drain.2.finish.2 := rfl
  have hdrained := Stream.fed_drain (a.stream.reset.setText text)
  obtain ⟨-, -, horigin, hfilters⟩ := Stream.finish_snd (a.stream.reset.setText text).drain.2
  obtain ⟨hstacked, hsource⟩ := Stream.filters_stacked (Stream.ofText text) [.fragments, .lowercase, .pairs]
  refine ⟨?_, Stream.wordTokens text, ?_⟩
  · rw [hstream, hfilters, hdrained.filters, h.setText, hstacked]
    rfl
  · rw [hstream, horigin, hdrained.origin, h.setText, hsource]
    rfl

theorem ready_after (texts : List String) : (after texts).Ready := by
  suffices hfrom : ∀ a : SearchField, a.Ready → (texts.foldl (fun a text => (a.terms text).2) a).Ready from
    hfrom new ready_new
  induction texts with
  | nil => exact fun _ h => h
  | cons text rest ih => exact fun a h => ih _ (h.terms text)

/-! ## The terms of a text -/

/-- The tokens of a text: its words at distance one, through all filters. -/
theorem Ready.tokens_fst (h : a.Ready) (text : String) :
    (a.tokens text).1 =
      (Spaced.pair ((Spaced.split 0 (((Unicode.words text.toList).map String.ofList).map (⟨·, 1⟩))).1.map
        Spaced.lower)).map Spaced.token := by
  have hwords : (Stream.ofText text).rest =
      (((Unicode.words text.toList).map String.ofList).map fun w => (⟨w, 1⟩ : Spaced)).map Spaced.token := by
    rw [List.map_map, List.map_map]
    rfl
  have hrest := (Stream.rest_stacked [.fragments, .lowercase, .pairs] hwords).1
  calc (a.tokens text).1
      = (a.stream.reset.setText text).drain.1 := rfl
    _ = _ := by
        rw [Stream.drain_fst, h.setText, hrest]
        rfl

/-- The terms of a text, word by word. -/
theorem Ready.terms_fst (h : a.Ready) (text : String) :
    (a.terms text).1 =
      withNeighbours ((((Unicode.words text.toList).map String.ofList).flatMap fragmentsOf).map lowercased) := by
  let words : List Spaced := ((Unicode.words text.toList).map String.ofList).map (⟨·, 1⟩)
  have hterms : words.map Spaced.term = (Unicode.words text.toList).map String.ofList := by
    rw [List.map_map]
    exact List.map_id _
  calc (a.terms text).1
      = (a.tokens text).1.map (·.term) := rfl
    _ = (Spaced.pair ((Spaced.split 0 words).1.map Spaced.lower)).map Spaced.term := by
        rw [h.tokens_fst, List.map_map]
        rfl
    _ = withNeighbours (((Spaced.split 0 words).1.map Spaced.term).map lowercased) := by
        rw [Spaced.map_term_pair, List.map_map, List.map_map]
        rfl
    _ = _ := by rw [Spaced.map_term_split, hterms]

/-- The lower case of the alphanumeric fragments of a text's words is that of its alphanumeric runs. -/
theorem lowercased_fragments (text : List Char) :
    (((Unicode.words text).map String.ofList).flatMap fragmentsOf).map lowercased =
      (Text.alphanumericRuns text).map fun run => String.ofList (run.map Char.toLower) := by
  have hfragments : ((Unicode.words text).map String.ofList).flatMap fragmentsOf =
      (Text.alphanumericRuns text).map String.ofList := by
    rw [← Text.flatMap_words, List.flatMap_map, List.map_flatMap]
    simp [fragmentsOf]
  rw [hfragments, List.map_map]
  refine List.map_congr_left fun run hrun => ?_
  simp only [Function.comp, lowercased, String.toList_ofList,
    Text.lowercaseText_of_alphanumeric (Text.alphanumeric_of_mem_runs hrun)]

/-- **The terms of a text depend on the text alone**: they are its runs of ASCII letters and digits in lower case, with
the concatenation of every two neighbours between the two. None is empty, and all are of lower case letters and
digits. -/
theorem terms_after (texts : List String) (text : String) :
    let base := (Text.alphanumericRuns text.toList).map fun run => String.ofList (run.map Char.toLower)
    ((after texts).terms text).1 = withNeighbours base ∧
      ∀ term ∈ ((after texts).terms text).1, term ≠ "" ∧ ∀ c ∈ term.toList, c.isLower = true ∨ c.isDigit = true := by
  intro base
  have hterms : ((after texts).terms text).1 = withNeighbours base := by
    rw [(ready_after texts).terms_fst, lowercased_fragments]
  have hbase : ∀ term ∈ base, Searchable term := by
    intro term hterm
    obtain ⟨run, hrun, rfl⟩ := List.mem_map.1 hterm
    exact searchable_run hrun
  refine ⟨hterms, ?_⟩
  rw [hterms]
  exact searchable_withNeighbours hbase

example : ((after ["log4j"]).terms "Apache Tomcat-7").1 = ["apache", "apachetomcat", "tomcat", "tomcat7", "7"] := by
  decide +kernel

end SearchField

end DependencyEvidence
