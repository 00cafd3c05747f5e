import DependencyEvidence.Proofs.Analysis.Failures

/-!
# Runs that fail to prepare

Nothing is analyzed unless every analyzer that takes part has been prepared. `Engine.trials` tells, for each of them, in
which file system its turn comes. The first one whose trial fails ends the run (`Engine.exists_first_trial`): the
dependencies are as they were, and the journal tells of the preparations up to that one and of nothing else. What the
analyzers would have done makes no difference (`Engine.run_working_of_error`).

An engine may be run again, in another file system and with analyzers that remember what has happened (`Occasion`). What
holds of a run holds of each of them, and those that fail to prepare leave no trace in the dependencies
(`remaining_filter`).
-/

namespace DependencyEvidence

/-! ## Trials -/

/-- The turn of an analyzer to be prepared: its place, and the file system as those before it have left it. -/
structure Trial where
  place : Nat
  analyzer : Analyzer
  fileSystem : FileSystem

namespace Trial

/-- Why the analyzer cannot be prepared, if so. -/
def error? (s : Settings) (t : Trial) : Option PreparationError :=
  match (t.analyzer.prepare s t.fileSystem).1 with
  | .error error => some error
  | .ok _ => none

/-- The file system behind the trial. -/
def left (s : Settings) (t : Trial) : FileSystem := (t.analyzer.prepare s t.fileSystem).2

variable {s : Settings} {t : Trial} {error : PreparationError}

theorem prepare_of_error (h : t.error? s = some error) :
    t.analyzer.prepare s t.fileSystem = (.error error, t.left s) := by
  rcases hprepare : t.analyzer.prepare s t.fileSystem with ⟨error' | work, fs⟩
  · have herror : some error' = some error := by simpa [error?, hprepare] using h
    rw [Option.some.inj herror, left, hprepare]
  · simp [error?, hprepare] at h

theorem prepare_of_no_error (h : t.error? s = none) :
    ∃ work, t.analyzer.prepare s t.fileSystem = (.ok work, t.left s) := by
  rcases hprepare : t.analyzer.prepare s t.fileSystem with ⟨error | work, fs⟩
  · simp [error?, hprepare] at h
  · exact ⟨work, by rw [left, hprepare]⟩

end Trial

/-- The trials of analyzers one after another, whatever comes of them. -/
def trialsOf (s : Settings) : List (Nat × Analyzer) → FileSystem → List Trial
  | [], _ => []
  | (place, a) :: rest, fs => ⟨place, a, fs⟩ :: trialsOf s rest (Trial.left s ⟨place, a, fs⟩)

section Trials

variable {s : Settings} {fs : FileSystem} {l : List (Nat × Analyzer)} {before after : List Trial} {t : Trial}
  {error : PreparationError}

theorem map_trialsOf (s : Settings) (l : List (Nat × Analyzer)) (fs : FileSystem) :
    (trialsOf s l fs).map (fun t => (t.place, t.analyzer)) = l := by
  induction l generalizing fs with
  | nil => rfl
  | cons x rest ih =>
    obtain ⟨place, a⟩ := x
    rw [trialsOf, List.map_cons, ih]

/-- The first trial that fails is the last one. -/
theorem prepareAll_of_first_error (h : trialsOf s l fs = before ++ t :: after) (hbefore : ∀ u ∈ before, u.error? s = none)
    (ht : t.error? s = some error) :
    prepareAll s l fs =
      (.error (.preparation t.analyzer.name error), (before ++ [t]).map Trial.place, t.left s) := by
  induction l generalizing fs before with
  | nil => simp [trialsOf] at h
  | cons x rest ih =>
    obtain ⟨place, a⟩ := x
    rw [trialsOf] at h
    cases before with
    | nil =>
      obtain ⟨rfl, -⟩ := List.cons.inj h
      rw [prepareAll_cons_of_error (Trial.prepare_of_error ht)]
      rfl
    | cons u before =>
      obtain ⟨rfl, hrest⟩ := List.cons.inj h
      obtain ⟨hu, hbefore⟩ := List.forall_mem_cons.1 hbefore
      obtain ⟨work, hwork⟩ := Trial.prepare_of_no_error hu
      rw [prepareAll_cons_of_ok hwork, ih hrest hbefore]
      rfl

/-- If no trial fails, all analyzers are ready. -/
theorem prepareAll_of_no_error (h : ∀ t ∈ trialsOf s l fs, t.error? s = none) :
    ∃ ready, (prepareAll s l fs).1 = .ok ready := by
  induction l generalizing fs with
  | nil => exact ⟨[], rfl⟩
  | cons x rest ih =>
    obtain ⟨place, a⟩ := x
    rw [trialsOf] at h
    obtain ⟨ha, hrest⟩ := List.forall_mem_cons.1 h
    obtain ⟨work, hwork⟩ := Trial.prepare_of_no_error ha
    obtain ⟨ready, hready⟩ := ih hrest
    refine ⟨⟨place, a.name, a.phase, work⟩ :: ready, ?_⟩
    rw [prepareAll_cons_of_ok hwork, hready]
    rfl

/-- If some trial fails, there is a first one. -/
theorem exists_first_error {trials : List Trial} (h : ∃ t ∈ trials, t.error? s ≠ none) :
    ∃ before t after error, trials = before ++ t :: after ∧ (∀ u ∈ before, u.error? s = none) ∧
      t.error? s = some error := by
  obtain ⟨t, hfind⟩ : ∃ t, trials.find? (fun t => (t.error? s).isSome) = some t := by
    rw [← Option.isSome_iff_exists, List.find?_isSome]
    obtain ⟨t, ht, herror⟩ := h
    exact ⟨t, ht, by simpa [Option.isSome_iff_ne_none] using herror⟩
  obtain ⟨ht, before, after, htrials, hbefore⟩ := List.find?_eq_some_iff_append.1 hfind
  obtain ⟨error, herror⟩ := Option.isSome_iff_exists.1 ht
  exact ⟨before, t, after, error, htrials, fun u hu => by simpa using hbefore u hu, herror⟩

end Trials

/-! ## Other work -/

/-- The analyzer, if it did something else once it is prepared. -/
def Analyzer.working (change : Work → Work) (a : Analyzer) : Analyzer :=
  { a with prepare := fun s fs => ((a.prepare s fs).1.map change, (a.prepare s fs).2) }

/-- Preparations that fail do so whatever the analyzers would have done. -/
theorem prepareAll_working_of_error (change : Analyzer → Work → Work) {s : Settings} {l : List (Nat × Analyzer)}
    {fs fs' : FileSystem} {error : RunError} {tried : List Nat}
    (h : prepareAll s l fs = (.error error, tried, fs')) :
    prepareAll s (l.map fun x => (x.1, x.2.working (change x.2))) fs = (.error error, tried, fs') := by
  induction l generalizing fs fs' error tried with
  | nil => simp [prepareAll] at h
  | cons x rest ih =>
    obtain ⟨place, a⟩ := x
    rw [List.map_cons]
    rcases hprepare : a.prepare s fs with ⟨error' | work, left⟩
    · have hworking : (a.working (change a)).prepare s fs = (.error error', left) := by
        simp only [Analyzer.working, hprepare, Except.map]
      rw [prepareAll_cons_of_error hprepare] at h
      rw [prepareAll_cons_of_error hworking]
      exact h
    · have hworking : (a.working (change a)).prepare s fs = (.ok (change a work), left) := by
        simp only [Analyzer.working, hprepare, Except.map]
      rw [prepareAll_cons_of_ok hprepare] at h
      rcases hrest : prepareAll s rest left with ⟨error' | ready, triedRest, fsRest⟩
      · rw [prepareAll_cons_of_ok hworking, ih hrest]
        rw [hrest] at h
        exact h
      · -- the rest does not fail, and neither does the analyzer
        rw [hrest] at h
        cases h

namespace Engine

variable {e : Engine} {fs : FileSystem}

/-- The engine, if its analyzers did something else once they are prepared. -/
def working (change : Analyzer → Work → Work) (e : Engine) : Engine :=
  { e with analyzers := e.analyzers.map fun a => a.working (change a) }

theorem enabled_working (change : Analyzer → Work → Work) (e : Engine) :
    (e.working change).enabled = e.enabled.map fun x => (x.1, x.2.working (change x.2)) := by
  rw [enabled, enabled, working, List.length_map, List.zip_map_right, List.filter_map]
  rfl

/-- A run that fails to prepare does not depend on what its analyzers would have done. -/
theorem run_working_of_error {runError : RunError} (h : (e.prepare fs).1 = .error runError)
    (change : Analyzer → Work → Work) : (e.working change).run fs = e.run fs := by
  have hprepare : e.prepare fs = (.error runError, (e.prepare fs).2) := Prod.ext h rfl
  have hworking : (e.working change).prepare fs = (.error runError, (e.prepare fs).2) := by
    rw [prepare, enabled_working]
    exact prepareAll_working_of_error change hprepare
  rw [run, run, hworking, hprepare]
  rfl

end Engine

/-! ## Places -/

theorem filter_le_of_append {a b : List Nat} {k : Nat} (ha : ∀ i ∈ a, i ≤ k) (hb : ∀ i ∈ b, k < i) :
    (a ++ b).filter (· ≤ k) = a := by
  rw [List.filter_append, List.filter_eq_self.2 (by simpa using ha), List.filter_eq_nil_iff.2 (by simpa using hb),
    List.append_nil]

theorem filter_le_range {k n : Nat} (h : k < n) : (List.range n).filter (· ≤ k) = List.range (k + 1) := by
  obtain ⟨m, rfl⟩ := Nat.exists_eq_add_of_le (Nat.succ_le_of_lt h)
  rw [List.range_add]
  apply filter_le_of_append
  · intro i hi
    have := List.mem_range.1 hi
    omega
  · intro i hi
    obtain ⟨j, -, rfl⟩ := List.mem_map.1 hi
    omega

namespace Engine

/-- Whether the analyzer that is registered at a place takes part. -/
def takesPart (e : Engine) (place : Nat) : Bool := e.analyzers[place]?.any (·.isEnabled e.settings)

/-- The trials of the analyzers that take part. -/
def trials (e : Engine) (fs : FileSystem) : List Trial := trialsOf e.settings e.enabled fs

variable {e : Engine} {fs : FileSystem} {before after : List Trial} {t : Trial} {error : PreparationError}

theorem map_fst_enabled (e : Engine) :
    e.enabled.map Prod.fst = (List.range e.analyzers.length).filter e.takesPart := by
  have henabled : e.enabled = ((List.range e.analyzers.length).zip e.analyzers).filter (e.takesPart ∘ Prod.fst) := by
    refine List.filter_congr fun x hx => ?_
    rw [Function.comp, takesPart, getElem?_of_mem_range_zip hx]
    rfl
  rw [henabled, ← List.filter_map, List.map_fst_zip (by simp)]

theorem map_place_trials (e : Engine) (fs : FileSystem) :
    (e.trials fs).map Trial.place = (List.range e.analyzers.length).filter e.takesPart := by
  have henabled := congrArg (List.map Prod.fst) (map_trialsOf e.settings e.enabled fs)
  rw [List.map_map, map_fst_enabled] at henabled
  exact henabled

theorem analyzer_of_mem_trials (h : t ∈ e.trials fs) :
    e.analyzers[t.place]? = some t.analyzer ∧ t.analyzer.isEnabled e.settings = true := by
  apply mem_enabled
  rw [← map_trialsOf e.settings e.enabled fs]
  exact List.mem_map_of_mem h

/-- Trials come in the order of their places. -/
theorem place_lt_of_append (h : e.trials fs = before ++ t :: after) :
    (∀ u ∈ before, u.place < t.place) ∧ ∀ u ∈ after, t.place < u.place := by
  have hascending : ((e.trials fs).map Trial.place).Pairwise (· < ·) := by
    rw [map_place_trials]
    exact List.pairwise_lt_range.filter _
  rw [h, List.pairwise_map, List.pairwise_append, List.pairwise_cons] at hascending
  obtain ⟨-, ⟨hafter, -⟩, hbefore⟩ := hascending
  exact ⟨fun u hu => hbefore u hu t List.mem_cons_self, hafter⟩

/-- The trials up to one of them are those of the analyzers up to its place. -/
theorem map_place_of_append (h : e.trials fs = before ++ t :: after) :
    (before ++ [t]).map Trial.place = (List.range (t.place + 1)).filter e.takesPart := by
  obtain ⟨hbefore, hafter⟩ := place_lt_of_append h
  have hplaces : (before ++ [t]).map Trial.place ++ after.map Trial.place =
      (List.range e.analyzers.length).filter e.takesPart := by
    rw [← map_place_trials e fs, h]
    simp
  have hupTo : ∀ i ∈ (before ++ [t]).map Trial.place, i ≤ t.place := by
    simp only [List.forall_mem_map, List.mem_append, List.mem_singleton]
    rintro u (hu | rfl)
    · exact Nat.le_of_lt (hbefore u hu)
    · exact Nat.le_refl _
  have hbeyond : ∀ i ∈ after.map Trial.place, t.place < i := by
    simpa only [List.forall_mem_map] using hafter
  have hlt : t.place < e.analyzers.length := by
    have ht : t ∈ e.trials fs := by simp [h]
    exact (List.getElem?_eq_some_iff.1 (analyzer_of_mem_trials ht).1).1
  rw [← filter_le_of_append hupTo hbeyond, hplaces, ← filter_le_range hlt, List.filter_filter, List.filter_filter]
  exact List.filter_congr fun i _ => Bool.and_comm _ _

/-! ## One run -/

/-- If some trial fails, there is one before which none does. It ends the run. -/
theorem exists_first_trial (h : ∃ t ∈ e.trials fs, t.error? e.settings ≠ none) :
    ∃ t ∈ e.trials fs, ∃ error, t.error? e.settings = some error ∧
      (∀ u ∈ e.trials fs, u.place < t.place → u.error? e.settings = none) ∧
      e.run fs = ⟨e.dependencies, some (.preparation t.analyzer.name error),
        ((List.range (t.place + 1)).filter e.takesPart).map .preparation, t.left e.settings⟩ ∧
      ∀ change, (e.working change).run fs = e.run fs := by
  obtain ⟨before, t, after, error, hsplit, hbefore, ht⟩ := exists_first_error h
  have hprepare : e.prepare fs = (.error (.preparation t.analyzer.name error),
      (List.range (t.place + 1)).filter e.takesPart, t.left e.settings) :=
    map_place_of_append hsplit ▸ prepareAll_of_first_error hsplit hbefore ht
  refine ⟨t, by simp [hsplit], error, ht, ?_, by rw [run, hprepare], run_working_of_error (by rw [hprepare])⟩
  intro u hu hlt
  obtain ⟨-, hafter⟩ := place_lt_of_append hsplit
  rw [hsplit] at hu
  simp only [List.mem_append, List.mem_cons] at hu
  rcases hu with hu | rfl | hu
  · exact hbefore u hu
  · omega
  · have := hafter u hu
    omega

/-- A run whose trials all succeed does not fail to prepare. -/
theorem run_of_no_error (h : ∀ t ∈ e.trials fs, t.error? e.settings = none) (name : String) (error : PreparationError) :
    (e.run fs).error? ≠ some (.preparation name error) := by
  obtain ⟨ready, hready⟩ := prepareAll_of_no_error h
  have hprepare : e.prepare fs = (.ok ready, (e.prepare fs).2) := Prod.ext hready rfl
  rw [run, hprepare]
  intro herror
  dsimp only at herror
  split at herror <;> cases herror

end Engine

/-! ## Repeated runs -/

/-- A time at which an engine is run: its analyzers as they are by then, and the file system. -/
structure Occasion where
  analyzers : List Analyzer
  fileSystem : FileSystem

namespace Occasion

/-- The engine at that time, with the dependencies that are there. -/
def engine (s : Settings) (o : Occasion) (ds : List Dependency) : Engine := ⟨s, o.analyzers, ds⟩

def run (s : Settings) (o : Occasion) (ds : List Dependency) : Run := (o.engine s ds).run o.fileSystem

/-- The trials at that time. They do not depend on the dependencies. -/
def trials (s : Settings) (o : Occasion) : List Trial := (o.engine s []).trials o.fileSystem

/-- Whether some analyzer that takes part cannot be prepared. -/
def fails (s : Settings) (o : Occasion) : Bool := (o.trials s).any fun t => (t.error? s).isSome

variable {s : Settings} {o : Occasion} {ds : List Dependency}

theorem fails_iff : o.fails s = true ↔ ∃ t ∈ o.trials s, t.error? s ≠ none := by
  simp [fails, Option.isSome_iff_ne_none]

theorem dependencies_of_fails (h : o.fails s = true) : (o.run s ds).dependencies = ds := by
  obtain ⟨t, -, error, -, -, hrun, -⟩ := (o.engine s ds).exists_first_trial (fails_iff.1 h)
  rw [run, hrun]
  rfl

end Occasion

/-- The dependencies behind repeated runs. -/
def remaining (s : Settings) (occasions : List Occasion) (ds : List Dependency) : List Dependency :=
  occasions.foldl (fun ds o => (o.run s ds).dependencies) ds

theorem remaining_cons (s : Settings) (o : Occasion) (rest : List Occasion) (ds : List Dependency) :
    remaining s (o :: rest) ds = remaining s rest (o.run s ds).dependencies := rfl

/-- Runs that fail to prepare may be left out. -/
theorem remaining_filter (s : Settings) (occasions : List Occasion) (ds : List Dependency) :
    remaining s (occasions.filter fun o => !o.fails s) ds = remaining s occasions ds := by
  induction occasions generalizing ds with
  | nil => rfl
  | cons o rest ih =>
    rw [List.filter_cons, remaining_cons]
    by_cases ho : o.fails s = true
    · rw [if_neg (by simp [ho]), ih, Occasion.dependencies_of_fails ho]
    · rw [if_pos (by simp [ho]), remaining_cons, ih]

/-- **A run ends at the first analyzer that cannot be prepared**, also after any number of earlier runs, some of which
may have failed to prepare. If some analyzer that takes part cannot be prepared, then for the first one in the order of
registration, whatever the phases are,

* the run tells its name and why it failed, and leaves the file system as the analyzer has left it;
* exactly the analyzers that take part up to this one have been prepared, once each and in order, no analyzer was given
  a dependency, and the dependencies are those that the earlier runs have left;
* nothing would be different if the analyzers did something else once they are prepared.

Otherwise the run does not fail to prepare. The earlier runs that failed to prepare have no part in what they all have
left. -/
theorem Occasion.run_ends_at_first_error (s : Settings) (earlier : List Occasion) (o : Occasion)
    (ds : List Dependency) :
    let given := remaining s earlier ds
    let e := o.engine s given
    (o.fails s = true → ∃ t ∈ o.trials s, ∃ error, t.error? s = some error ∧
      (∀ u ∈ o.trials s, u.place < t.place → u.error? s = none) ∧
      o.analyzers[t.place]? = some t.analyzer ∧ t.analyzer.isEnabled s = true ∧
      e.run o.fileSystem = ⟨given, some (.preparation t.analyzer.name error),
        ((List.range (t.place + 1)).filter e.takesPart).map .preparation, t.left s⟩ ∧
      ∀ change, (e.working change).run o.fileSystem = e.run o.fileSystem) ∧
    (o.fails s = false → ∀ name error, (e.run o.fileSystem).error? ≠ some (.preparation name error)) ∧
    given = remaining s (earlier.filter fun o => !o.fails s) ds := by
  intro given e
  refine ⟨?_, ?_, (remaining_filter s earlier ds).symm⟩
  · intro h
    obtain ⟨t, ht, error, herror, hfirst, hrun, hworking⟩ := e.exists_first_trial (Occasion.fails_iff.1 h)
    obtain ⟨hplace, henabled⟩ := Engine.analyzer_of_mem_trials ht
    exact ⟨t, ht, error, herror, hfirst, hplace, henabled, hrun, hworking⟩
  · intro h
    apply Engine.run_of_no_error
    intro t ht
    by_contra herror
    exact absurd (Occasion.fails_iff.2 ⟨t, ht, herror⟩) (by simp [h])

/-- The analyzer that is registered first would drop all dependencies. The other one belongs to an earlier phase, but
its failure ends the run all the same. -/
example (s : Settings) (fs : FileSystem) (ds : List Dependency) :
    let sweeper : Analyzer := .simple "Sweeper" .preInformationCollection (fun _ => true) (.together fun _ => [])
    let broken : Analyzer := ⟨"Reader", .initial, fun _ => true, fun _ fs => (.error (.other "no index"), fs)⟩
    (Occasion.mk [sweeper, broken] fs).run s ds =
      ⟨ds, some (.preparation "Reader" (.other "no index")), [.preparation 0, .preparation 1], fs⟩ := rfl

end DependencyEvidence
