import DependencyEvidence.Analysis.Engine
import Mathlib.Data.List.Basic

/-!
# Schedules

Analyzers that take every dependency by itself may take several at the same time. Their steps then come in an order of
their own, which is a list of places. While an analyzer is at work, each place has a slot (`Slot`): the dependency waits
to be taken, or it has been.

* `getElem?_pass`: a step changes its own slot, and nothing about the others. So after any list of steps a slot depends
  on whether its place is among them.
* `Work.performIn_eq`: an order that leaves out no place gives what the order of the working set gives, also for the
  failures, which are read off the slots.
* `Engine.MayRun` has all that a run may come to: in parallel, each analyzer may go through the working set in any order.
  The dependencies and the failures are those of `Engine.run`, whether the settings ask for it or not
  (`Engine.run_any_order`). The journal tells the order that was taken.
-/

namespace DependencyEvidence

/-! ## Slots -/

/-- A dependency while an analyzer is at work. -/
inductive Slot where
  | waiting (given : Dependency)
  /-- The dependency as the analyzer left it, and why the analyzer failed on it, if it did. -/
  | taken (result : Dependency) (reason? : Option String)

namespace Slot

/-- Takes the dependency, unless that has been done. -/
def take (step : Step) : Slot → Slot
  | waiting d => taken (step d).1 (step d).2
  | taken d reason? => taken d reason?

/-- The dependency as it is now. -/
def dependency : Slot → Dependency
  | waiting d => d
  | taken d _ => d

/-- The failure of an analyzer on the dependency. -/
def failure? (analyzer : String) : Slot → Option Failure
  | waiting _ => none
  | taken d reason? => reason?.map (⟨analyzer, d.filePath, ·⟩)

theorem take_take (step : Step) (s : Slot) : (s.take step).take step = s.take step := by
  cases s <;> rfl

end Slot

/-- Takes the dependencies at some places, one after another. -/
def pass (step : Step) (order : List Nat) (slots : List Slot) : List Slot :=
  order.foldl (fun slots k => slots.modify k (Slot.take step)) slots

section Passes

variable {step : Step} {order : List Nat} {ds : List Dependency}

/-- After some steps those places are taken that are among them. -/
theorem getElem?_pass (step : Step) (order : List Nat) (slots : List Slot) (k : Nat) :
    (pass step order slots)[k]? = slots[k]?.map (if k ∈ order then Slot.take step else id) := by
  induction order generalizing slots with
  | nil => simp [pass]
  | cons i rest ih =>
    have hrest : pass step (i :: rest) slots = pass step rest (slots.modify i (Slot.take step)) := rfl
    rw [hrest, ih]
    by_cases hik : i = k
    · -- the step of this place: a later one at the same place does nothing
      subst hik
      rw [List.getElem?_modify_eq, Option.map_eq_map, Option.map_map, if_pos List.mem_cons_self]
      congr 1
      funext s
      by_cases hlater : i ∈ rest
      · simp [hlater, Slot.take_take]
      · simp [hlater]
    · have hki : k ≠ i := fun h => hik h.symm
      rw [List.getElem?_modify_ne _ _ hik]
      simp [hki]

/-- Steps at all places take everything, whatever their order. -/
theorem pass_of_covers (h : ∀ k, k < ds.length → k ∈ order) :
    pass step order (ds.map .waiting) = ds.map fun d => .taken (step d).1 (step d).2 := by
  refine List.ext_getElem? fun k => ?_
  rw [getElem?_pass, List.getElem?_map, List.getElem?_map]
  by_cases hk : k < ds.length
  · rw [if_pos (h k hk), Option.map_map]
    rfl
  · rw [List.getElem?_eq_none (Nat.le_of_not_lt hk)]
    rfl

end Passes

/-! ## Works -/

/-- The dependencies after the work, and the failures in the order of the dependencies, if an analyzer that takes every
dependency by itself goes through them in this order. -/
def Work.performIn (order : List Nat) (w : Work) (analyzer : String) (fs : FileSystem) (ds : List Dependency) :
    List Dependency × List Failure :=
  match w with
  | .each step =>
    let slots := pass (step fs) order (ds.map .waiting)
    (slots.map Slot.dependency, slots.filterMap (Slot.failure? analyzer))
  | .together change => (change ds, [])

/-- **The order of a work does not matter**, if it leaves out no dependency. -/
theorem Work.performIn_eq {order : List Nat} {ds : List Dependency} (h : ∀ k, k < ds.length → k ∈ order) (w : Work)
    (analyzer : String) (fs : FileSystem) : w.performIn order analyzer fs ds = w.perform analyzer fs ds := by
  cases w with
  | each step =>
    simp only [performIn, perform, pass_of_covers h, List.map_map, List.filterMap_map]
    rfl
  | together change => rfl

/-! ## Runs -/

/-- Whether an analyzer may go through `n` dependencies in this order: through all of them once, and from the first to
the last unless it works in parallel. -/
def MayTake (parallel : Bool) (n : Nat) (order : List Nat) : Prop :=
  order.Perm (List.range n) ∧ (parallel = false → order = List.range n)

/-- Lets an analyzer work in this order. -/
def Ready.performIn (fs : FileSystem) (order : List Nat) (p : Progress) (r : Ready) : Progress :=
  let (dependencies, failures) := r.work.performIn order r.name fs p.dependencies
  let visits := match r.work with
    | .each _ => order.filterMap fun k => p.dependencies[k]?.map fun d => Visit.dependency r.place d.fileName
    | .together _ => []
  { dependencies, failures := p.failures ++ failures, journal := p.journal ++ visits }

/-- What may come of letting analyzers work, one after another. -/
inductive MayPerform (parallel : Bool) (fs : FileSystem) : List Ready → Progress → Progress → Prop
  | nil (p : Progress) : MayPerform parallel fs [] p p
  | cons {r : Ready} {rest : List Ready} {p q : Progress} {order : List Nat}
      (h : MayTake parallel p.dependencies.length order)
      (hrest : MayPerform parallel fs rest (r.performIn fs order p) q) : MayPerform parallel fs (r :: rest) p q

/-- What may come of a run. -/
inductive Engine.MayRun (e : Engine) (fs : FileSystem) : Run → Prop
  | failed {error : RunError} {tried : List Nat} {fs' : FileSystem} (h : e.prepare fs = (.error error, tried, fs')) :
      e.MayRun fs ⟨e.dependencies, some error, tried.map .preparation, fs'⟩
  | finished {ready : List Ready} {tried : List Nat} {fs' : FileSystem} {p : Progress}
      (h : e.prepare fs = (.ok ready, tried, fs'))
      (hp : MayPerform e.settings.parallel fs' (Phase.sort Ready.phase ready)
        ⟨e.dependencies, [], tried.map .preparation⟩ p) :
      e.MayRun fs ⟨p.dependencies, if p.failures.isEmpty then none else some (.analysis p.failures), p.journal, fs'⟩

/-- Whether two runs stand at the same dependencies and failures, with the same visits in some order. -/
structure Progress.Agrees (p q : Progress) : Prop where
  dependencies : p.dependencies = q.dependencies
  failures : p.failures = q.failures
  journal : p.journal.Perm q.journal

section Orders

variable {parallel : Bool} {fs : FileSystem} {order : List Nat} {p q p' : Progress} {r : Ready} {ready : List Ready}

theorem MayTake.covers {n : Nat} (h : MayTake parallel n order) : ∀ k, k < n → k ∈ order :=
  fun _ hk => h.1.symm.subset (List.mem_range.2 hk)

theorem filterMap_range_getElem? {α β : Type} (f : α → β) (l : List α) :
    (List.range l.length).filterMap (fun k => l[k]?.map f) = l.map f := by
  induction l with
  | nil => rfl
  | cons a rest ih =>
    rw [List.length_cons, List.range_succ_eq_map, List.filterMap_cons, List.filterMap_map]
    exact congrArg (f a :: ·) ih

/-- One analyzer: the order in which it takes the dependencies is seen in the journal only. -/
theorem Progress.Agrees.perform (h : p.Agrees q) (horder : MayTake parallel p.dependencies.length order) (r : Ready) :
    (r.performIn fs order p).Agrees (r.perform fs q) := by
  have hwork : r.work.performIn order r.name fs p.dependencies = r.work.perform r.name fs q.dependencies := by
    rw [Work.performIn_eq horder.covers, h.dependencies]
  constructor
  · exact congrArg Prod.fst hwork
  · exact congrArg₂ (· ++ ·) h.failures (congrArg Prod.snd hwork)
  · refine h.journal.append ?_
    cases r.work with
    | each step =>
      have hvisits := horder.1.filterMap fun k => p.dependencies[k]?.map fun d => Visit.dependency r.place d.fileName
      rw [filterMap_range_getElem?, h.dependencies] at hvisits
      rw [h.dependencies]
      exact hvisits
    | together change => exact .refl _

/-- All analyzers: whatever orders they take, they come to what the order of the working set comes to. -/
theorem MayPerform.agrees (h : MayPerform parallel fs ready p p') (hpq : p.Agrees q) :
    p'.Agrees (ready.foldl (Ready.perform fs) q) := by
  induction h generalizing q with
  | nil p => exact hpq
  | cons horder hrest ih => exact ih (hpq.perform horder _)

/-- From the first dependency to the last is an order that any analyzer may take. -/
theorem Ready.performIn_range (r : Ready) (fs : FileSystem) (p : Progress) :
    r.performIn fs (List.range p.dependencies.length) p = r.perform fs p := by
  have hcovers : ∀ k, k < p.dependencies.length → k ∈ List.range p.dependencies.length :=
    fun k hk => List.mem_range.2 hk
  rw [performIn, perform, Work.performIn_eq hcovers]
  cases r.work with
  | each step => rw [filterMap_range_getElem?]
  | together change => rfl

theorem mayPerform_foldl (parallel : Bool) (fs : FileSystem) (ready : List Ready) (p : Progress) :
    MayPerform parallel fs ready p (ready.foldl (Ready.perform fs) p) := by
  induction ready generalizing p with
  | nil => exact .nil p
  | cons r rest ih =>
    refine .cons ⟨.refl _, fun _ => rfl⟩ ?_
    rw [Ready.performIn_range]
    exact ih (r.perform fs p)

end Orders

/-! ## The mode of a run -/

/-- Whether an analyzer takes part, and is prepared, in the same way whether it is to work in parallel or not. -/
def Analyzer.IgnoresMode (a : Analyzer) : Prop :=
  ∀ (s : Settings) (parallel : Bool), a.isEnabled { s with parallel } = a.isEnabled s ∧
    ∀ fs, a.prepare { s with parallel } fs = a.prepare s fs

namespace Engine

/-- The engine with settings that ask for work in parallel, or not. -/
def inMode (parallel : Bool) (e : Engine) : Engine := { e with settings := { e.settings with parallel } }

variable {e : Engine} {fs : FileSystem}

theorem prepareAll_of_ignoresMode {l : List (Nat × Analyzer)} (h : ∀ x ∈ l, x.2.IgnoresMode) (s : Settings)
    (parallel : Bool) (fs : FileSystem) : prepareAll { s with parallel } l fs = prepareAll s l fs := by
  induction l generalizing fs with
  | nil => rfl
  | cons x rest ih =>
    obtain ⟨place, a⟩ := x
    obtain ⟨ha, hrest⟩ := List.forall_mem_cons.1 h
    have hprepare : a.prepare { s with parallel } fs = a.prepare s fs := (ha s parallel).2 fs
    rw [prepareAll, prepareAll, hprepare]
    rcases a.prepare s fs with ⟨error | work, fs'⟩
    · rfl
    · simp only [ih hrest]

/-- Analyzers that do not look at the mode are prepared in the same way. -/
theorem prepare_inMode (h : ∀ a ∈ e.analyzers, a.IgnoresMode) (parallel : Bool) (fs : FileSystem) :
    (e.inMode parallel).prepare fs = e.prepare fs := by
  have hall : ∀ x ∈ (List.range e.analyzers.length).zip e.analyzers, x.2.IgnoresMode :=
    fun x hx => h x.2 (List.of_mem_zip hx).2
  have henabled : (e.inMode parallel).enabled = e.enabled :=
    List.filter_congr fun x hx => (hall x hx e.settings parallel).1
  rw [prepare, prepare, henabled]
  exact prepareAll_of_ignoresMode (fun x hx => hall x (List.mem_of_mem_filter hx)) e.settings parallel fs

theorem hints_ignoresMode (base : String) (net : Network) : (Analyzer.hints base net).IgnoresMode :=
  fun _ _ => ⟨rfl, fun _ => rfl⟩

theorem defaultAnalyzers_ignoresMode (net : Network) : ∀ a ∈ defaultAnalyzers net, a.IgnoresMode := by
  have hpaths : ∀ k, (Analyzer.packagePaths k).IgnoresMode := by
    intro k s parallel
    cases k <;> exact ⟨rfl, fun _ => rfl⟩
  have hmerging : Analyzer.merging.IgnoresMode := fun _ _ => ⟨rfl, fun _ => rfl⟩
  simp only [defaultAnalyzers, List.forall_mem_cons]
  exact ⟨hints_ignoresMode _ _, hpaths _, hpaths _, hpaths _, hpaths _, hmerging, fun _ h => absurd h List.not_mem_nil⟩

/-! ## The main statement -/

/-- A run in the order of the working set is one that may come about in either mode. -/
theorem mayRun_run (e : Engine) (fs : FileSystem) : e.MayRun fs (e.run fs) := by
  rcases hprepare : e.prepare fs with ⟨error | ready, tried, fs'⟩
  · rw [run, hprepare]
    exact .failed hprepare
  · rw [run, hprepare]
    exact .finished hprepare (mayPerform_foldl _ _ _ _)

/-- Whatever comes of a run, it is what comes of the run in the order of the working set, but for the journal. -/
theorem MayRun.agrees {r : Run} (h : e.MayRun fs r) :
    r.dependencies = (e.run fs).dependencies ∧ r.error? = (e.run fs).error? ∧
      r.fileSystem = (e.run fs).fileSystem ∧ r.journal.Perm (e.run fs).journal := by
  cases h with
  | failed hprepare =>
    rw [run, hprepare]
    exact ⟨rfl, rfl, rfl, .refl _⟩
  | @finished ready tried fs' p hprepare hp =>
    let start : Progress := ⟨e.dependencies, [], tried.map .preparation⟩
    have hstart : start.Agrees start := ⟨rfl, rfl, .refl _⟩
    obtain ⟨hdependencies, hfailures, hjournal⟩ := hp.agrees hstart
    rw [run, hprepare]
    refine ⟨hdependencies, ?_, rfl, hjournal⟩
    rw [hfailures]
    rfl

/-- Without a look at the mode, both modes come to the same. -/
theorem run_inMode (h : ∀ a ∈ e.analyzers, a.IgnoresMode) (parallel : Bool) (fs : FileSystem) :
    (e.inMode parallel).run fs = e.run fs := by
  rw [run, run, prepare_inMode h]
  rfl

/-- **A run does not depend on schedules.** In parallel, each analyzer may take the dependencies in any order. The run in
the order of the working set is one that may come about, and whatever else comes about has the same dependencies, and the
same failures in the same order; only the journal has other orders. If no analyzer looks at the mode, and those of every
run do not, a run in parallel ends as one that is not. -/
theorem run_any_order (e : Engine) (fs : FileSystem) :
    e.MayRun fs (e.run fs) ∧
      (∀ r, e.MayRun fs r →
        r.dependencies = (e.run fs).dependencies ∧ r.error? = (e.run fs).error? ∧
          r.fileSystem = (e.run fs).fileSystem ∧ r.journal.Perm (e.run fs).journal) ∧
      ((∀ a ∈ e.analyzers, a.IgnoresMode) → ∀ r r', (e.inMode true).MayRun fs r → (e.inMode false).MayRun fs r' →
        r.dependencies = r'.dependencies ∧ r.error? = r'.error?) ∧
      ∀ net, ∀ a ∈ defaultAnalyzers net, a.IgnoresMode := by
  refine ⟨mayRun_run e fs, fun r hr => hr.agrees, ?_, defaultAnalyzers_ignoresMode⟩
  intro hmode r r' hr hr'
  obtain ⟨hdependencies, herror, -⟩ := hr.agrees
  obtain ⟨hdependencies', herror', -⟩ := hr'.agrees
  rw [run_inMode hmode] at hdependencies herror hdependencies' herror'
  exact ⟨hdependencies.trans hdependencies'.symm, herror.trans herror'.symm⟩

/-- In parallel, two files in the other order: the failure on the first one is told all the same. -/
theorem run_any_order_backwards :
    let step : FileSystem → Step := fun _ d => (d, if d.fileName = "broken.jar" then some "cannot read" else none)
    let e : Engine := ⟨{ parallel := true }, [.simple "first" .initial (fun _ => true) (.each step)],
      [.ofPath ⟨"/x/broken.jar"⟩, .ofPath ⟨"/x/fine.jar"⟩]⟩
    let fs : FileSystem := ⟨[], [], ⟨"/tmp"⟩, none⟩
    let r : Run := ⟨e.dependencies, some (.analysis [⟨"first", ⟨"/x/broken.jar"⟩, "cannot read"⟩]),
      [.preparation 0, .dependency 0 "fine.jar", .dependency 0 "broken.jar"], fs⟩
    e.MayRun fs r ∧ r.dependencies = (e.run fs).dependencies ∧ r.error? = (e.run fs).error? ∧
      (e.run fs).journal = [.preparation 0, .dependency 0 "broken.jar", .dependency 0 "fine.jar"] := by
  intro step e fs r
  have horder : MayTake e.settings.parallel e.dependencies.length [1, 0] := by
    constructor
    · decide
    · intro h
      cases h
  let ready : Ready := ⟨0, "first", .initial, .each step⟩
  let start : Progress := ⟨e.dependencies, [], [.preparation 0]⟩
  have hprepare : e.prepare fs = (.ok [ready], [0], fs) := rfl
  have hsort : Phase.sort Ready.phase [ready] = [ready] := List.mergeSort_singleton ready
  have hperform : MayPerform e.settings.parallel fs (Phase.sort Ready.phase [ready]) start
      (ready.performIn fs [1, 0] start) := by
    rw [hsort]
    exact .cons horder (.nil _)
  have hmay : e.MayRun fs r := .finished hprepare hperform
  obtain ⟨-, hany, -⟩ := run_any_order e fs
  obtain ⟨hdependencies, herror, -⟩ := hany r hmay
  refine ⟨hmay, hdependencies, herror, ?_⟩
  have hrun : (e.run fs).journal = (perform fs [ready] start).journal := by
    rw [run, hprepare]
    rfl
  rw [hrun, perform, hsort]
  rfl

end Engine

end DependencyEvidence
