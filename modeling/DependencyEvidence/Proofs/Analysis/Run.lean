import DependencyEvidence.Analysis.Engine

/-!
# Runs without failures

An analyzer is reliable with some settings and a file system (`Analyzer.Reliable`) if preparing it succeeds and leaves
the file system alone, and if it fails on no dependency. A run whose analyzers are reliable is a composition: each
analyzer that takes part changes what the ones before it left (`Engine.run_of_reliable`).

The analyzers of every run are registered in the order of their phases (`Engine.pairwise_phase`). Loading rules may
fail, and may leave something in the file system. If it succeeds, the run goes on as one whose rules were known all
along (`Engine.prepare_of_loaded`), and all analyzers of such a run are reliable. So a standard run either ends at once
(`Engine.run_standard_of_failed`), or analyzes each dependency by itself, as `Dependency.analyzed` says, and merges what
comes out (`Engine.run_standard_of_loaded`).
-/

namespace DependencyEvidence

variable {s : Settings} {fs : FileSystem}

/-! ## Reliable analyzers -/

namespace Analyzer

/-- What an analyzer does once it is prepared, and nothing if it cannot be prepared. -/
def readied (a : Analyzer) (s : Settings) (fs : FileSystem) : Work :=
  match (a.prepare s fs).1 with
  | .ok work => work
  | .error _ => .together id

/-- What an analyzer makes of dependencies. -/
def change (a : Analyzer) (s : Settings) (fs : FileSystem) (dependencies : List Dependency) : List Dependency :=
  ((a.readied s fs).perform a.name fs dependencies).1

/-- Whether an analyzer can be prepared, without an effect on the file system, and fails on no dependency. -/
structure Reliable (a : Analyzer) (s : Settings) (fs : FileSystem) : Prop where
  prepares : a.prepare s fs = (.ok (a.readied s fs), fs)
  succeeds (dependencies : List Dependency) : ((a.readied s fs).perform a.name fs dependencies).2 = []

/-- The analyzer at its place, once it is prepared. -/
def ready (s : Settings) (fs : FileSystem) (x : Nat × Analyzer) : Ready :=
  ⟨x.1, x.2.name, x.2.phase, x.2.readied s fs⟩

end Analyzer

/-! ## Preparation -/

theorem getElem?_of_mem_range_zip {α : Type} {l : List α} {x : Nat × α} (h : x ∈ (List.range l.length).zip l) :
    l[x.1]? = some x.2 := by
  obtain ⟨k, hk⟩ := List.mem_iff_getElem?.1 h
  obtain ⟨hplace, hx⟩ := List.getElem?_zip_eq_some.1 hk
  obtain ⟨_, hkplace⟩ := List.getElem?_eq_some_iff.1 hplace
  rw [List.getElem_range] at hkplace
  rw [← hkplace]
  exact hx

section Preparation

variable {fs' : FileSystem} {place : Nat} {a : Analyzer} {rest : List (Nat × Analyzer)}

theorem prepareAll_cons_of_ok {work : Work} (h : a.prepare s fs = (.ok work, fs')) :
    prepareAll s ((place, a) :: rest) fs =
      ((prepareAll s rest fs').1.map (⟨place, a.name, a.phase, work⟩ :: ·), place :: (prepareAll s rest fs').2.1,
        (prepareAll s rest fs').2.2) := by
  simp only [prepareAll, h]

theorem prepareAll_cons_of_error {error : PreparationError} (h : a.prepare s fs = (.error error, fs')) :
    prepareAll s ((place, a) :: rest) fs = (.error (.preparation a.name error), [place], fs') := by
  simp only [prepareAll, h]

end Preparation

/-! ## Composition -/

theorem prepareAll_of_reliable {l : List (Nat × Analyzer)} (h : ∀ x ∈ l, x.2.Reliable s fs) :
    prepareAll s l fs = (.ok (l.map (Analyzer.ready s fs)), l.map Prod.fst, fs) := by
  induction l with
  | nil => rfl
  | cons x rest ih =>
    obtain ⟨hx, hrest⟩ := List.forall_mem_cons.1 h
    rw [prepareAll_cons_of_ok hx.prepares, ih hrest]
    rfl

/-- Reliable analyzers add no failures, and change the dependencies one after another. -/
theorem foldl_perform_of_reliable {l : List (Nat × Analyzer)} (h : ∀ x ∈ l, x.2.Reliable s fs) (p : Progress) :
    ((l.map (Analyzer.ready s fs)).foldl (Ready.perform fs) p).failures = p.failures ∧
    ((l.map (Analyzer.ready s fs)).foldl (Ready.perform fs) p).dependencies =
      (l.map Prod.snd).foldl (fun ds a => a.change s fs ds) p.dependencies := by
  induction l generalizing p with
  | nil => exact ⟨rfl, rfl⟩
  | cons x rest ih =>
    obtain ⟨hx, hrest⟩ := List.forall_mem_cons.1 h
    obtain ⟨hfailures, hdependencies⟩ := ih hrest (Ready.perform fs p (Analyzer.ready s fs x))
    refine ⟨hfailures.trans ?_, hdependencies⟩
    show p.failures ++ ((x.2.readied s fs).perform x.2.name fs p.dependencies).2 = p.failures
    rw [hx.succeeds p.dependencies, List.append_nil]

namespace Engine

/-- **A run of reliable analyzers** that are registered in the order of their phases succeeds, leaves the file system as
it is, and applies those that take part one after another. -/
theorem run_of_reliable (e : Engine) (hsorted : e.analyzers.Pairwise fun a b => a.phase.notAfter b.phase = true)
    (h : ∀ a ∈ e.analyzers, a.isEnabled e.settings = true → a.Reliable e.settings fs) :
    (e.run fs).error? = none ∧ (e.run fs).fileSystem = fs ∧
    (e.run fs).dependencies =
      (e.analyzers.filter (·.isEnabled e.settings)).foldl (fun ds a => a.change e.settings fs ds) e.dependencies := by
  have hplaces : ((List.range e.analyzers.length).zip e.analyzers).map Prod.snd = e.analyzers :=
    List.map_snd_zip (by simp)
  have henabled : e.enabled.map Prod.snd = e.analyzers.filter (·.isEnabled e.settings) := by
    rw [show e.analyzers.filter (·.isEnabled e.settings) = _ from congrArg _ hplaces.symm, List.filter_map]
    rfl
  have hreliable : ∀ x ∈ e.enabled, x.2.Reliable e.settings fs := by
    intro x hx
    have hmem : x.2 ∈ e.analyzers.filter (·.isEnabled e.settings) := henabled ▸ List.mem_map_of_mem hx
    exact h x.2 (List.mem_filter.1 hmem).1 (List.mem_filter.1 hmem).2
  have hphases : Phase.sort Ready.phase (e.enabled.map (Analyzer.ready e.settings fs)) =
      e.enabled.map (Analyzer.ready e.settings fs) := by
    refine List.mergeSort_of_pairwise ?_
    have hsub : (e.enabled.map Prod.snd).Pairwise fun a b => a.phase.notAfter b.phase = true :=
      henabled ▸ hsorted.sublist List.filter_sublist
    exact List.pairwise_map.2 (List.pairwise_map.1 hsub)
  have hprepare : e.prepare fs = (.ok (e.enabled.map (Analyzer.ready e.settings fs)), e.enabled.map Prod.fst, fs) :=
    prepareAll_of_reliable hreliable
  obtain ⟨hfailures, hdependencies⟩ :=
    foldl_perform_of_reliable hreliable ⟨e.dependencies, [], (e.enabled.map Prod.fst).map Visit.preparation⟩
  simp only [run, hprepare, perform, hphases]
  refine ⟨?_, trivial, hdependencies.trans (by rw [henabled])⟩
  rw [hfailures]
  rfl

end Engine

/-! ## The analyzers of every run -/

/-- The kinds of files whose packages are described, in the order of their analyzers. -/
def PackageKind.registered : List PackageKind := [.rubyBundler, .rubyGemspec, .swiftManifest, .podspec]

/-- What the analyzers before the merging do to one dependency, given the rules of the hint analyzer. -/
def Dependency.analyzed (s : Settings) (fs : FileSystem) (rules : RuleSet) (d : Dependency) : Dependency :=
  (PackageKind.registered.filter (·.isEnabled s)).foldl (fun d k => k.describe fs d)
    (if s.analyzers.hint then rules.apply d else d)

namespace Analyzer

variable {rules : RuleSet}

/-- An analyzer that takes every dependency by itself and never fails is reliable. -/
theorem reliable_of_each {a : Analyzer} {step : FileSystem → Dependency → Dependency}
    (h : a.prepare s fs = (.ok (.each fun fs d => (step fs d, none)), fs)) :
    a.Reliable s fs ∧ ∀ ds, a.change s fs ds = ds.map (step fs) := by
  have hwork : a.readied s fs = .each fun fs d => (step fs d, none) := by rw [readied, h]
  refine ⟨⟨hwork ▸ h, fun ds => ?_⟩, fun ds => ?_⟩
  · rw [hwork]
    simp [Work.perform]
  · rw [change, hwork]
    simp [Work.perform]

theorem reliable_merging (rules : List MergeRule) :
    (Analyzer.merging rules).Reliable s fs ∧
      ∀ ds, (Analyzer.merging rules).change s fs ds = mergeAll rules ds :=
  ⟨⟨rfl, fun _ => rfl⟩, fun _ => rfl⟩

theorem reliable_packagePaths (k : PackageKind) :
    (Analyzer.packagePaths k).Reliable s fs ∧
      ∀ ds, (Analyzer.packagePaths k).change s fs ds = ds.map (k.describe fs) :=
  reliable_of_each rfl

/-- The analyzer of hints, if its rules are known and need not be loaded. -/
def knowing (rules : RuleSet) : Analyzer :=
  .simple "Hint Analyzer" .preInformationCollection (·.analyzers.hint) (.each fun _ d => (rules.apply d, none))

theorem reliable_knowing (rules : RuleSet) :
    (Analyzer.knowing rules).Reliable s fs ∧ ∀ ds, (Analyzer.knowing rules).change s fs ds = ds.map rules.apply := by
  have hprepare : (Analyzer.knowing rules).prepare s fs = (.ok (.each fun _ d => (rules.apply d, none)), fs) := rfl
  exact reliable_of_each hprepare

/-- Preparing the analyzer of hints loads its rules. -/
theorem prepare_hints {loaded : Except LoadError RuleSet} {fs' : FileSystem} {base : String} {net : Network}
    (h : RuleSet.load fs s base net = (loaded, fs')) :
    (Analyzer.hints base net).prepare s fs =
      ((loaded.mapError .hints).map fun rules => .each fun _ d => (rules.apply d, none), fs') := by
  simp only [Analyzer.hints, h]

end Analyzer

/-- How loading the rules of a run ends: with these rules, where the analyzer of hints takes part. Otherwise nothing
happens, and any rules will do. -/
def Loaded (net : Network) (s : Settings) (fs : FileSystem) (base : String) (rules : RuleSet) (fs' : FileSystem) :
    Prop :=
  if s.analyzers.hint then RuleSet.load fs s base net = (.ok rules, fs') else fs' = fs

namespace Engine

variable {net : Network} {rules : RuleSet} {fs' : FileSystem} {base : String} {l : List Analyzer}
  {ds : List Dependency}

/-- The phases of an analyzer of hints, of analyzers of packages and of a merging one ascend. -/
theorem pairwise_phase (rules : RuleSet) (kinds : List PackageKind) (merges : List MergeRule) :
    (Analyzer.knowing rules :: (kinds.map Analyzer.packagePaths ++ [.merging merges])).Pairwise
      fun a b => a.phase.notAfter b.phase = true := by
  refine List.pairwise_cons.2 ⟨fun a ha => ?_, List.pairwise_append.2 ⟨?_, List.pairwise_singleton _ _, ?_⟩⟩
  · rcases List.mem_append.1 ha with ha | ha
    · obtain ⟨k, -, rfl⟩ := List.mem_map.1 ha
      rfl
    · obtain rfl := List.mem_singleton.1 ha
      rfl
  · exact List.pairwise_map.2 (List.pairwise_of_forall fun _ _ => rfl)
  · intro a ha b hb
    obtain ⟨k, -, rfl⟩ := List.mem_map.1 ha
    obtain rfl := List.mem_singleton.1 hb
    rfl

/-- Each kind of packages is described in its turn. -/
theorem foldl_packagePaths (kinds : List PackageKind) (ds : List Dependency) :
    ((kinds.map Analyzer.packagePaths).filter (·.isEnabled s)).foldl (fun ds a => a.change s fs ds) ds =
      ds.map fun d => (kinds.filter (·.isEnabled s)).foldl (fun d k => k.describe fs d) d := by
  induction kinds generalizing ds with
  | nil => simp
  | cons k rest ih =>
    have hsame : (Analyzer.packagePaths k).isEnabled s = k.isEnabled s := rfl
    rw [List.map_cons, List.filter_cons, List.filter_cons, hsame]
    cases k.isEnabled s with
    | true =>
      simp only [if_true, List.foldl_cons]
      rw [ih, (Analyzer.reliable_packagePaths k).2, List.map_map]
      rfl
    | false => exact ih ds

/-- What analyzers of hints, of packages and a merging one make of dependencies: each dependency is changed by itself,
before they are merged. -/
theorem foldl_change (rules : RuleSet) (kinds : List PackageKind) (merges : List MergeRule) (ds : List Dependency) :
    ((Analyzer.knowing rules :: (kinds.map Analyzer.packagePaths ++ [.merging merges])).filter
        (·.isEnabled s)).foldl (fun ds a => a.change s fs ds) ds =
      (if s.analyzers.dependencyMerging then mergeAll merges else id) (ds.map fun d =>
        (kinds.filter (·.isEnabled s)).foldl (fun d k => k.describe fs d)
          (if s.analyzers.hint then rules.apply d else d)) := by
  have hhint : (Analyzer.knowing rules).isEnabled s = s.analyzers.hint := rfl
  have hmerging : (Analyzer.merging merges).isEnabled s = s.analyzers.dependencyMerging := rfl
  have hlast : ∀ ds, ([Analyzer.merging merges].filter (·.isEnabled s)).foldl (fun ds a => a.change s fs ds) ds =
      (if s.analyzers.dependencyMerging then mergeAll merges else id) ds := by
    intro ds
    rw [List.filter_cons, hmerging]
    cases s.analyzers.dependencyMerging with
    | true => exact (Analyzer.reliable_merging merges).2 ds
    | false => rfl
  rw [List.filter_cons, hhint]
  cases s.analyzers.hint with
  | true =>
    simp only [if_true, List.foldl_cons, List.filter_append, List.foldl_append]
    rw [(Analyzer.reliable_knowing rules).2, foldl_packagePaths, hlast, List.map_map]
    rfl
  | false =>
    simp only [Bool.false_eq_true, if_false, List.filter_append, List.foldl_append]
    rw [foldl_packagePaths, hlast]

/-! ## Standard runs -/

/-- The analyzer that is registered first is the first one that takes part, if it does. -/
theorem enabled_cons (s : Settings) (a : Analyzer) (l : List Analyzer) (ds : List Dependency) :
    (Engine.mk s (a :: l) ds).enabled =
      (if a.isEnabled s then [(0, a)] else []) ++ ((List.range' 1 l.length).zip l).filter (·.2.isEnabled s) := by
  rw [enabled, List.length_cons, List.range_eq_range', List.range'_succ, List.zip_cons_cons, List.filter_cons]
  split <;> rfl

/-- Rules that are loaded are as good as rules that are known. -/
theorem prepare_of_loaded (h : Loaded net s fs base rules fs') :
    (Engine.mk s (.hints base net :: l) ds).prepare fs = (Engine.mk s (.knowing rules :: l) ds).prepare fs' := by
  have hhint : (Analyzer.hints base net).isEnabled s = s.analyzers.hint := rfl
  have hsame : (Analyzer.knowing rules).isEnabled s = s.analyzers.hint := rfl
  rw [prepare, prepare, enabled_cons, enabled_cons, hhint, hsame]
  rw [Loaded] at h
  cases hs : s.analyzers.hint with
  | true =>
    rw [if_pos hs] at h
    simp only [if_true, List.singleton_append]
    rw [prepareAll_cons_of_ok (Analyzer.prepare_hints h)]
    rfl
  | false =>
    rw [if_neg (by simp [hs])] at h
    rw [h]
    rfl

/-- Rules that cannot be loaded end the preparation. -/
theorem prepare_of_failed {error : LoadError} (hs : s.analyzers.hint = true)
    (h : RuleSet.load fs s base net = (.error error, fs')) :
    (Engine.mk s (.hints base net :: l) ds).prepare fs =
      (.error (.preparation "Hint Analyzer" (.hints error)), [0], fs') := by
  have hhint : (Analyzer.hints base net).isEnabled s = true := hs
  rw [prepare, enabled_cons, hhint]
  exact prepareAll_cons_of_error (Analyzer.prepare_hints h)

/-- A run depends on what is prepared, not on where it was prepared from. -/
theorem run_eq_of_prepare {e e' : Engine} (hprepare : e.prepare fs = e'.prepare fs')
    (hdependencies : e.dependencies = e'.dependencies) : e.run fs = e'.run fs' := by
  rw [run, run, hprepare, hdependencies]

/-- **A standard run** whose rules can be loaded succeeds. Each dependency is analyzed by itself, in the file system
that loading has left, and then what belongs together is merged. -/
theorem run_standard_of_loaded (h : Loaded net s fs builtinRules rules fs') (ds : List Dependency) :
    ((standard s ds net).run fs).error? = none ∧ ((standard s ds net).run fs).fileSystem = fs' ∧
    ((standard s ds net).run fs).dependencies =
      (if s.analyzers.dependencyMerging then mergeAll MergeRule.all else id)
        (ds.map (Dependency.analyzed s fs' rules)) := by
  let e : Engine := ⟨s, .knowing rules :: (PackageKind.registered.map .packagePaths ++ [.merging]), ds⟩
  have hrun : (standard s ds net).run fs = e.run fs' := run_eq_of_prepare (prepare_of_loaded h) rfl
  obtain ⟨herror, hfs, hdependencies⟩ := @run_of_reliable fs' e (pairwise_phase _ _ _) fun a ha _ => by
    rcases List.mem_cons.1 ha with rfl | ha
    · exact (Analyzer.reliable_knowing rules).1
    rcases List.mem_append.1 ha with ha | ha
    · obtain ⟨k, -, rfl⟩ := List.mem_map.1 ha
      exact (Analyzer.reliable_packagePaths k).1
    · obtain rfl := List.mem_singleton.1 ha
      exact (Analyzer.reliable_merging _).1
  rw [hrun]
  exact ⟨herror, hfs, hdependencies.trans (foldl_change rules _ _ ds)⟩

/-- A standard run whose rules cannot be loaded tells why, and changes no dependency. -/
theorem run_standard_of_failed {error : LoadError} (hs : s.analyzers.hint = true)
    (h : RuleSet.load fs s builtinRules net = (.error error, fs')) (ds : List Dependency) :
    (standard s ds net).run fs =
      ⟨ds, some (.preparation "Hint Analyzer" (.hints error)), [.preparation 0], fs'⟩ := by
  have hprepare : (standard s ds net).prepare fs = _ := prepare_of_failed hs h
  simp only [run, hprepare]
  rfl

/-- A standard run without a document of rules in the settings leaves the file system as it is. -/
theorem run_standard {rules : RuleSet} (hs : s.hintFile = none) (hrules : RuleSet.ofText builtinRules = .ok rules)
    (net : Network) (fs : FileSystem) (ds : List Dependency) :
    ((standard s ds net).run fs).error? = none ∧ ((standard s ds net).run fs).fileSystem = fs ∧
    ((standard s ds net).run fs).dependencies =
      (if s.analyzers.dependencyMerging then mergeAll MergeRule.all else id)
        (ds.map (Dependency.analyzed s fs rules)) := by
  refine run_standard_of_loaded ?_ ds
  rw [Loaded, RuleSet.load, RuleSet.loadOver, hrules, hs]
  split <;> rfl

end Engine

end DependencyEvidence
