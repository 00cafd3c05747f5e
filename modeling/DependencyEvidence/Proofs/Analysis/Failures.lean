import DependencyEvidence.Proofs.Analysis.Run
import Mathlib.Data.List.Basic

/-!
# Runs with failures

Analyzers that take every dependency by itself may fail on some of them. A run goes on all the same: every analyzer
that takes part is given every dependency, as the analyzers before it have left it, and all failures are told at the
end, in the order in which they occurred (`Engine.run_of_each`).

* `Phase.sort_eq_flatMap`: sorting by phase puts those of one phase behind those of the phase before, and leaves the
  order within a phase.
* `Prepared` says what preparing some analyzers leaves, if it succeeds (`prepared_of_prepareAll`).
* `Taking` is an analyzer that takes a dependency, and `takings` are all of a run. `Ready.perform_of_each` tells what
  one analyzer adds to the progress of a run, and `foldl_perform_of_each` what all of them add.
-/

namespace DependencyEvidence

/-! ## Sorting by phase -/

namespace Phase

variable {α : Type} (phase : α → Phase)

theorem notAfter_trans (a b c : α) (h : (phase a).notAfter (phase b) = true)
    (h' : (phase b).notAfter (phase c) = true) : (phase a).notAfter (phase c) = true := by
  simp only [notAfter, decide_eq_true_eq] at h h' ⊢
  omega

theorem notAfter_total (a b : α) : ((phase a).notAfter (phase b) || (phase b).notAfter (phase a)) = true := by
  simp only [notAfter, Bool.or_eq_true, decide_eq_true_eq]
  omega

/-- A phase parts the phases before it from those behind it. -/
theorem all_eq (p : Phase) :
    ∃ before after, all = before ++ p :: after ∧ (∀ q ∈ before, p.notAfter q = false) ∧ p ∉ after := by
  refine ⟨all.takeWhile (· ≠ p), (all.dropWhile (· ≠ p)).tail, ?_⟩
  cases p <;> decide

theorem mem_of_mem_flatMap {a : α} {l : List α} {phase : α → Phase} {phases : List Phase}
    (h : a ∈ phases.flatMap fun p => l.filter (phase · = p)) : a ∈ l := by
  obtain ⟨p, -, ha⟩ := List.mem_flatMap.1 h
  exact List.mem_of_mem_filter ha

/-- Sorting leaves the order within a phase. -/
theorem filter_sort (p : Phase) (l : List α) : (sort phase l).filter (phase · = p) = l.filter (phase · = p) := by
  induction l with
  | nil => simp [sort]
  | cons a rest ih =>
    obtain ⟨before, after, hsort, hrest, hbefore⟩ :=
      List.mergeSort_cons (notAfter_trans phase) (notAfter_total phase) a rest
    rw [sort, hrest] at ih
    rw [sort, hsort, List.filter_append, List.filter_cons, List.filter_cons, ← ih, List.filter_append]
    by_cases ha : phase a = p
    · -- what is sorted before `a` is of an earlier phase
      have hnone : before.filter (phase · = p) = [] := by
        refine List.filter_eq_nil_iff.2 fun b hb hp => ?_
        have hlater := hbefore b hb
        rw [ha, of_decide_eq_true hp] at hlater
        simp [notAfter] at hlater
      simp [ha, hnone]
    · simp [ha]

/-- What is sorted is its parts of each phase, one after another. -/
theorem flatMap_filter_of_pairwise {l : List α} (h : l.Pairwise fun a b => (phase a).notAfter (phase b) = true) :
    (all.flatMap fun p => l.filter (phase · = p)) = l := by
  induction l with
  | nil => simp
  | cons a rest ih =>
    obtain ⟨ha, hrest⟩ := List.pairwise_cons.1 h
    obtain ⟨before, after, hall, hbefore, hafter⟩ := all_eq (phase a)
    -- the parts before the phase of `a` are empty, and those behind it do not hold `a`
    have hempty : ∀ l : List α, (∀ b ∈ l, (phase a).notAfter (phase b) = true) →
        before.flatMap (fun p => l.filter (phase · = p)) = [] := by
      intro l hl
      refine List.flatMap_eq_nil_iff.2 fun p hp => List.filter_eq_nil_iff.2 fun b hb hpb => ?_
      have hlater := hbefore p hp
      rw [← of_decide_eq_true hpb, hl b hb] at hlater
      cases hlater
    have hbehind : after.flatMap (fun p => (a :: rest).filter (phase · = p)) =
        after.flatMap (fun p => rest.filter (phase · = p)) := by
      refine List.flatMap_congr fun p hp => ?_
      have hne : phase a ≠ p := fun heq => hafter (heq ▸ hp)
      simp [hne]
    have hself : (phase a).notAfter (phase a) = true := by simp [notAfter]
    have hrests := ih hrest
    rw [hall, List.flatMap_append, List.flatMap_cons, hempty rest ha, List.nil_append] at hrests
    rw [hall, List.flatMap_append, List.flatMap_cons, hempty (a :: rest) (List.forall_mem_cons.2 ⟨hself, ha⟩), hbehind,
      List.nil_append, List.filter_cons, if_pos (decide_eq_true rfl), List.cons_append, hrests]

/-- **Sorting by phase** goes through the phases in order, and leaves the order within each. -/
theorem sort_eq_flatMap (l : List α) : sort phase l = all.flatMap fun p => l.filter (phase · = p) := by
  have hsorted : (sort phase l).Pairwise fun a b => (phase a).notAfter (phase b) = true :=
    List.pairwise_mergeSort (notAfter_trans phase) (notAfter_total phase) l
  rw [← flatMap_filter_of_pairwise phase hsorted]
  simp only [filter_sort]

end Phase

/-! ## Preparing -/

/-- Analyzers that are prepared one after another, each in the file system that the one before it has left. -/
inductive Prepared (s : Settings) : FileSystem → List (Nat × Analyzer) → List Ready → FileSystem → Prop
  | nil (fs : FileSystem) : Prepared s fs [] [] fs
  | cons {fs fs' fs'' : FileSystem} {place : Nat} {a : Analyzer} {work : Work} {rest : List (Nat × Analyzer)}
      {ready : List Ready} (h : a.prepare s fs = (.ok work, fs')) (hrest : Prepared s fs' rest ready fs'') :
      Prepared s fs ((place, a) :: rest) (⟨place, a.name, a.phase, work⟩ :: ready) fs''

section Preparing

variable {s : Settings} {fs fs' : FileSystem} {l : List (Nat × Analyzer)} {ready : List Ready}

/-- Where no analyzer fails, all are tried. -/
theorem prepared_of_prepareAll (h : (prepareAll s l fs).1 = .ok ready) :
    Prepared s fs l ready (prepareAll s l fs).2.2 ∧ (prepareAll s l fs).2.1 = l.map Prod.fst := by
  induction l generalizing fs ready with
  | nil =>
    obtain rfl : [] = ready := Except.ok.inj h
    exact ⟨.nil fs, rfl⟩
  | cons x rest ih =>
    obtain ⟨place, a⟩ := x
    rcases hprepare : a.prepare s fs with ⟨error | work, fs'⟩
    · rw [prepareAll_cons_of_error hprepare] at h
      cases h
    · rw [prepareAll_cons_of_ok hprepare] at h ⊢
      rcases hrest : (prepareAll s rest fs').1 with error | more
      · simp only [hrest] at h
        cases h
      · obtain ⟨hprepared, htried⟩ := ih hrest
        simp only [hrest] at h
        obtain rfl := Except.ok.inj h
        exact ⟨.cons hprepare hprepared, congrArg (place :: ·) htried⟩

/-- Preparing does not change the places. -/
theorem Prepared.map_place (h : Prepared s fs l ready fs') : ready.map Ready.place = l.map Prod.fst := by
  induction h with
  | nil fs => rfl
  | cons h hrest ih => exact congrArg (_ :: ·) ih

end Preparing

/-! ## Taking dependencies -/

namespace Ready

/-- Whether an analyzer takes every dependency by itself. -/
def TakesEach (r : Ready) : Prop := ∃ step, r.work = .each step

/-- What an analyzer that takes every dependency by itself does to one. -/
def take (fs : FileSystem) (r : Ready) : Step :=
  match r.work with
  | .each step => step fs
  | .together _ => fun d => (d, none)

end Ready

/-- An analyzer that takes a dependency. -/
structure Taking where
  analyzer : Ready
  given : Dependency

namespace Taking

/-- The dependency as the analyzer leaves it. -/
def result (fs : FileSystem) (t : Taking) : Dependency := (t.analyzer.take fs t.given).1

/-- Why the analyzer failed, if it did. -/
def reason? (fs : FileSystem) (t : Taking) : Option String := (t.analyzer.take fs t.given).2

/-- What is told of a failure: the name of the analyzer, and the path of the dependency as the analyzer left it. -/
def failure? (fs : FileSystem) (t : Taking) : Option Failure :=
  (t.reason? fs).map (⟨t.analyzer.name, (t.result fs).filePath, ·⟩)

/-- What the journal says of it. -/
def visit (t : Taking) : Visit := .dependency t.analyzer.place t.given.fileName

end Taking

/-- All that analyzers take, one analyzer after another: every dependency, as the analyzers before have left it. -/
def takings (fs : FileSystem) : List Ready → List Dependency → List Taking
  | [], _ => []
  | r :: rest, ds => ds.map (⟨r, ·⟩) ++ takings fs rest (ds.map fun d => (r.take fs d).1)

section Takings

variable {fs : FileSystem} {order : List Ready} {t : Taking}

theorem analyzer_mem_of_mem_takings {ds : List Dependency} (h : t ∈ takings fs order ds) : t.analyzer ∈ order := by
  induction order generalizing ds with
  | nil => cases h
  | cons r rest ih =>
    rcases List.mem_append.1 h with h | h
    · obtain ⟨d, -, rfl⟩ := List.mem_map.1 h
      exact List.mem_cons_self
    · exact List.mem_cons_of_mem _ (ih h)

/-- What an analyzer that takes every dependency by itself adds to a run. -/
theorem Ready.perform_of_each {r : Ready} (h : r.TakesEach) (p : Progress) :
    r.perform fs p =
      ⟨p.dependencies.map fun d => (r.take fs d).1,
        p.failures ++ (p.dependencies.map (Taking.mk r)).filterMap (Taking.failure? fs),
        p.journal ++ (p.dependencies.map (Taking.mk r)).map Taking.visit⟩ := by
  obtain ⟨step, hstep⟩ := h
  have htake : r.take fs = step fs := by rw [Ready.take, hstep]
  simp only [Ready.perform, Work.perform, hstep, htake, List.map_map, List.filterMap_map]
  refine congrArg₂ (Progress.mk _) (congrArg _ (List.filterMap_congr fun d _ => ?_)) rfl
  simp only [Function.comp, Taking.failure?, Taking.reason?, Taking.result, htake]

/-- What analyzers that take every dependency by themselves add to a run, one after another. -/
theorem foldl_perform_of_each (h : ∀ r ∈ order, r.TakesEach) (p : Progress) :
    order.foldl (Ready.perform fs) p =
      ⟨p.dependencies.map fun d => order.foldl (fun d r => (r.take fs d).1) d,
        p.failures ++ (takings fs order p.dependencies).filterMap (Taking.failure? fs),
        p.journal ++ (takings fs order p.dependencies).map Taking.visit⟩ := by
  induction order generalizing p with
  | nil => simp [takings]
  | cons r rest ih =>
    obtain ⟨hr, hrest⟩ := List.forall_mem_cons.1 h
    rw [List.foldl_cons, Ready.perform_of_each hr, ih hrest]
    simp only [takings, List.map_append, List.filterMap_append, List.append_assoc, List.map_map, List.foldl_cons]
    rfl

/-- There are failures if some analyzer failed. -/
theorem filterMap_failure_eq_nil {all : List Taking} :
    all.filterMap (Taking.failure? fs) = [] ↔ ∀ t ∈ all, t.reason? fs = none := by
  rw [List.filterMap_eq_nil_iff]
  simp only [Taking.failure?, Option.map_eq_none_iff]

end Takings

/-! ## The run -/

/-- The place of the analyzer that an event is about. -/
def Visit.place : Visit → Nat
  | .preparation analyzer => analyzer
  | .dependency analyzer _ => analyzer

namespace Engine

theorem mem_enabled {e : Engine} {place : Nat} {a : Analyzer} (h : (place, a) ∈ e.enabled) :
    e.analyzers[place]? = some a ∧ a.isEnabled e.settings = true := by
  obtain ⟨hmem, henabled⟩ := List.mem_filter.1 h
  exact ⟨getElem?_of_mem_range_zip hmem, henabled⟩

variable {e : Engine} {fs fs' : FileSystem} {ready : List Ready}

/-- What a run leaves, if the analyzers that are ready take every dependency by itself. -/
theorem run_eq_of_each (hprepare : e.prepare fs = (.ok ready, e.enabled.map Prod.fst, fs'))
    (heach : ∀ r ∈ ready, r.TakesEach) :
    let order := Phase.all.flatMap fun p => ready.filter (·.phase = p)
    let all := takings fs' order e.dependencies
    e.run fs =
      ⟨e.dependencies.map fun d => order.foldl (fun d r => (r.take fs' d).1) d,
        if (all.filterMap (Taking.failure? fs')).isEmpty then none
          else some (.analysis (all.filterMap (Taking.failure? fs'))),
        e.enabled.map (fun x => .preparation x.1) ++ all.map Taking.visit, fs'⟩ := by
  intro order all
  have hsort : Phase.sort Ready.phase ready = order := Phase.sort_eq_flatMap Ready.phase ready
  have hperform : order.foldl (Ready.perform fs') ⟨e.dependencies, [], e.enabled.map fun x => .preparation x.1⟩ = _ :=
    foldl_perform_of_each (fun r hr => heach r (Phase.mem_of_mem_flatMap hr)) _
  simp only [run, hprepare, perform, hsort, List.map_map]
  exact hperform ▸ rfl

/-- The journal of such a run has nothing of an analyzer that does not take part. -/
theorem place_mem_enabled (hprepared : Prepared e.settings fs e.enabled ready fs') {v : Visit}
    (hv : v ∈ e.enabled.map (fun x => .preparation x.1) ++
      (takings fs' (Phase.all.flatMap fun p => ready.filter (·.phase = p)) e.dependencies).map Taking.visit) :
    ∃ a, e.analyzers[v.place]? = some a ∧ a.isEnabled e.settings = true := by
  have hplace : v.place ∈ e.enabled.map Prod.fst := by
    rcases List.mem_append.1 hv with hv | hv
    · obtain ⟨x, hx, rfl⟩ := List.mem_map.1 hv
      exact List.mem_map_of_mem hx
    · obtain ⟨t, ht, rfl⟩ := List.mem_map.1 hv
      rw [← hprepared.map_place]
      exact List.mem_map_of_mem (Phase.mem_of_mem_flatMap (analyzer_mem_of_mem_takings ht))
  obtain ⟨x, hx, hxplace⟩ := List.mem_map.1 hplace
  exact ⟨x.2, hxplace ▸ mem_enabled hx⟩

/-- **A run goes on whatever fails.** If every analyzer that takes part can be prepared, and takes every dependency by
itself, then

* they have been prepared in the order of their registration, each in the file system that the one before it left;
* all of them, phase by phase and within a phase in the order of their registration, are given every dependency in
  order, as those before have left it (`takings`), and the dependencies end as the last one leaves them;
* the run succeeds if no analyzer failed on any dependency. Otherwise it tells each failure once, in the order in which
  they occurred;
* the journal has the preparations and then what was taken. It has nothing of an analyzer that is not enabled. -/
theorem run_of_each (e : Engine) (fs : FileSystem) {ready : List Ready} (hready : (e.prepare fs).1 = .ok ready)
    (heach : ∀ r ∈ ready, r.TakesEach) :
    let fs' := (e.prepare fs).2.2
    let order := Phase.all.flatMap fun p => ready.filter (·.phase = p)
    let all := takings fs' order e.dependencies
    Prepared e.settings fs e.enabled ready fs' ∧
      (e.run fs).dependencies = e.dependencies.map (fun d => order.foldl (fun d r => (r.take fs' d).1) d) ∧
      ((∀ t ∈ all, t.reason? fs' = none) → (e.run fs).error? = none) ∧
      ((∃ t ∈ all, t.reason? fs' ≠ none) →
        (e.run fs).error? = some (.analysis (all.filterMap (Taking.failure? fs')))) ∧
      (e.run fs).journal = e.enabled.map (fun x => .preparation x.1) ++ all.map Taking.visit ∧
      (∀ v ∈ (e.run fs).journal, ∃ a, e.analyzers[v.place]? = some a ∧ a.isEnabled e.settings = true) := by
  intro fs' order all
  obtain ⟨hprepared, htried⟩ := prepared_of_prepareAll hready
  have hprepare : e.prepare fs = (.ok ready, e.enabled.map Prod.fst, fs') := Prod.ext hready (Prod.ext htried rfl)
  rw [run_eq_of_each hprepare heach]
  refine ⟨hprepared, rfl, fun hnone => ?_, fun hsome => ?_, rfl, fun v hv => place_mem_enabled hprepared hv⟩
  · exact if_pos (List.isEmpty_iff.2 (filterMap_failure_eq_nil.2 hnone))
  · refine if_neg fun hempty => ?_
    obtain ⟨t, ht, hreason⟩ := hsome
    exact hreason (filterMap_failure_eq_nil.1 (List.isEmpty_iff.1 hempty) t ht)

/-- Two analyzers of which the later one is registered first, and another one that is not enabled. Both fail on one
file, and both change the path that they tell. -/
theorem run_of_each_broken :
    let step : FileSystem → Step := fun _ d =>
      ({ d with filePath := ⟨d.filePath.text ++ "~"⟩ }, if d.fileName = "broken.jar" then some "cannot read" else none)
    let e : Engine := ⟨{}, [.simple "late" .final (fun _ => true) (.each step),
      .simple "off" .initial (fun _ => false) (.each step),
      .simple "early" .initial (fun _ => true) (.each step)],
      [.ofPath ⟨"/x/broken.jar"⟩, .ofPath ⟨"/x/fine.jar"⟩]⟩
    let fs : FileSystem := ⟨[], [], ⟨"/tmp"⟩, none⟩
    (e.run fs).error? = some (.analysis
      [⟨"early", ⟨"/x/broken.jar~"⟩, "cannot read"⟩, ⟨"late", ⟨"/x/broken.jar~~"⟩, "cannot read"⟩]) := by
  intro step e fs
  have hready : (e.prepare fs).1 =
      .ok [⟨0, "late", .final, .each step⟩, ⟨2, "early", .initial, .each step⟩] := rfl
  have heach : ∀ r ∈ [(⟨0, "late", .final, .each step⟩ : Ready), ⟨2, "early", .initial, .each step⟩], r.TakesEach := by
    intro r hr
    simp only [List.mem_cons, List.not_mem_nil, or_false] at hr
    rcases hr with rfl | rfl <;> exact ⟨step, rfl⟩
  obtain ⟨-, -, -, hfailed, -⟩ := run_of_each e fs hready heach
  have hbroken : (⟨⟨2, "early", .initial, .each step⟩, .ofPath ⟨"/x/broken.jar"⟩⟩ : Taking) ∈
      takings fs [⟨2, "early", .initial, .each step⟩, ⟨0, "late", .final, .each step⟩] e.dependencies :=
    List.mem_cons_self
  refine (hfailed ⟨_, hbroken, by decide⟩).trans ?_
  rfl

end Engine

end DependencyEvidence
