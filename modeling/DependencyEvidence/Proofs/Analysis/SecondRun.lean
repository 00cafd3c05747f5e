import DependencyEvidence.Proofs.Analysis.PackageKinds
import DependencyEvidence.Proofs.Hints.Stability
import DependencyEvidence.Proofs.Merge.Survivors

/-!
# A second run

A dependency is settled (`Settled`) if the analyzers that take part have nothing more to do with it: the hint rules are
done with it, and the analyzers of packages find nothing that is not known yet, a name apart.

* `settled_analyzed`: what has been analyzed is settled, and `Settled.absorb`: merging keeps it so.
* `Settled.analyzed`: a settled dependency is analyzed to itself, but for its name.
* `mergeAll_map_of_plan_eq_nil`: dependencies of which no two are merged are not merged under other names either.

So a second run leaves what the first one left (`run_standard_twice`).
-/

namespace DependencyEvidence

variable {s : Settings} {fs : FileSystem}

/-! ## Descriptions of packages -/

namespace PackageKind

/-- Whether there is nothing to be filled in for a file of this kind, a name apart. -/
def Described (k : PackageKind) (fs : FileSystem) (d : Dependency) : Prop :=
  k.accepts d.actualPath = true → d.ecosystem ≠ .unknown ∧ (d.packagePath = none → k.packagePath? fs d = none)

variable {k l : PackageKind} {d d' : Dependency}

theorem described_congr (h : d'.key = d.key) : k.Described fs d' ↔ k.Described fs d := by
  have hactual : d'.actualPath = d.actualPath := congrArg FileKey.actualPath h
  have hecosystem : d'.ecosystem = d.ecosystem := congrArg FileKey.ecosystem h
  have hpackage : d'.packagePath = d.packagePath := congrArg FileKey.packagePath h
  rw [Described, Described, hactual, hecosystem, hpackage,
    packagePath?_congr (congrArg FileKey.filePath h) hactual (congrArg FileKey.fileName h)]

/-- What a description does not change is described. -/
theorem described_of_describe_eq (h : k.describe fs d = d) : k.Described fs d := by
  intro ha
  rw [describe_of_accepts ha] at h
  have hecosystem : (if d.ecosystem = .unknown then k.ecosystem else d.ecosystem) = d.ecosystem :=
    congrArg (·.ecosystem) h
  have hpath : (d.packagePath <|> k.packagePath? fs d) = d.packagePath := congrArg (·.packagePath) h
  constructor
  · intro hunknown
    rw [if_pos hunknown, hunknown] at hecosystem
    exact k.ecosystem_ne_unknown hecosystem
  · intro hnone
    simpa [hnone] using hpath

/-- What has been described is described. -/
theorem described_describe (k : PackageKind) (fs : FileSystem) (d : Dependency) : k.Described fs (k.describe fs d) :=
  described_of_describe_eq (describe_describe k d)

/-- Other analyzers do not undo a description. -/
theorem Described.describe (h : k.Described fs d) (l : PackageKind) : k.Described fs (l.describe fs d) := by
  by_cases hl : l.accepts d.actualPath = true
  · intro ha
    have hk : k.accepts d.actualPath = true := actualPath_describe l d ▸ ha
    obtain rfl : k = l := eq_of_accepts hk hl
    exact described_describe k fs d ha
  · rwa [describe_of_not_accepts hl]

end PackageKind

/-! ## Names -/

/-- Whether two dependencies are the same but for a name that was unset, of a Swift package, where the analyzer of these
takes part. -/
def Renamed (s : Settings) (d d' : Dependency) : Prop :=
  d' = { d with name := d'.name } ∧
    (d'.name ≠ d.name →
      s.analyzers.swiftPackageManager = true ∧ d.name = none ∧ PackageKind.swiftManifest.accepts d.actualPath = true)

namespace Renamed

variable {d d' d'' : Dependency}

theorem refl (d : Dependency) : Renamed s d d := ⟨by cases d; rfl, fun h => absurd rfl h⟩

theorem trans (h : Renamed s d d') (h' : Renamed s d' d'') : Renamed s d d'' := by
  obtain ⟨heq, hname⟩ := h
  obtain ⟨heq', hname'⟩ := h'
  refine ⟨?_, fun hne => ?_⟩
  · rw [heq', heq]
  · by_cases hsame : d'.name = d.name
    · obtain ⟨hon, hnone, haccepts⟩ := hname' fun he => hne (he.trans hsame)
      refine ⟨hon, hsame ▸ hnone, ?_⟩
      rwa [heq] at haccepts
    · exact hname hsame

end Renamed

/-- A file that is described is described once more with another name at most. -/
theorem PackageKind.Described.renamed {k : PackageKind} {d : Dependency} (h : k.Described fs d)
    (hk : k.isEnabled s = true) : Renamed s d (k.describe fs d) := by
  by_cases ha : k.accepts d.actualPath = true
  · obtain ⟨hknown, hpath⟩ := h ha
    have hpackage : (d.packagePath <|> k.packagePath? fs d) = d.packagePath := by
      cases hp : d.packagePath with
      | some p => rfl
      | none => simpa using hpath hp
    rw [describe_of_accepts ha, if_neg hknown, hpackage]
    refine ⟨rfl, fun hne => ?_⟩
    dsimp only at hne
    cases hn : d.name with
    | some n => simp [hn] at hne
    | none =>
      cases k with
      | swiftManifest => exact ⟨hk, rfl, ha⟩
      | _ => simp [hn, packageName?] at hne
  · rw [PackageKind.describe, if_neg ha]
    exact .refl d

/-! ## Settled dependencies -/

/-- Whether the analyzers before the merging have nothing to do with a dependency, a name apart. -/
structure Settled (s : Settings) (fs : FileSystem) (rules : RuleSet) (d : Dependency) : Prop where
  done : s.analyzers.hint = true → rules.DoneWith d
  described (k : PackageKind) : k.isEnabled s = true → k.Described fs d

section Settling

variable {rules : RuleSet} {d d' : Dependency}

/-- Hint rules look at nothing that a description changes. -/
theorem RuleSet.DoneWith.describe (h : rules.DoneWith d) (k : PackageKind) : rules.DoneWith (k.describe fs d) := by
  unfold PackageKind.describe
  split
  · exact ⟨h.rules, h.copies⟩
  · exact h

/-- Merging keeps dependencies settled. -/
theorem Settled.absorb {p t : Dependency} (hp : Settled s fs rules p) (ht : Settled s fs rules t) :
    Settled s fs rules (p.absorb t) where
  done hs := (hp.done hs).absorb (ht.done hs)
  described k hk := (PackageKind.described_congr (Dependency.key_absorb p t)).2 (hp.described k hk)

theorem PackageKind.mem_registered (k : PackageKind) : k ∈ registered := by cases k <;> decide

/-- What has been analyzed is settled. -/
theorem settled_analyzed (hrules : rules.Stable) (d : Dependency) :
    Settled s fs rules (d.analyzed s fs rules) := by
  let enabled := PackageKind.registered.filter (·.isEnabled s)
  constructor
  · intro hs
    suffices h : ∀ (kinds : List PackageKind) (d : Dependency), rules.DoneWith d →
        rules.DoneWith (kinds.foldl (fun d k => k.describe fs d) d) by
      have hdone : rules.DoneWith (if s.analyzers.hint then rules.apply d else d) := by
        rw [if_pos hs]
        exact hrules.doneWith_apply d
      exact h enabled _ hdone
    intro kinds
    induction kinds with
    | nil => exact fun d h => h
    | cons k rest ih => exact fun d h => ih _ (h.describe k)
  · intro k hk
    suffices h : ∀ (kinds : List PackageKind) (d : Dependency), k ∈ kinds ∨ k.Described fs d →
        k.Described fs (kinds.foldl (fun d k => k.describe fs d) d) from
      h enabled _ (.inl (List.mem_filter.2 ⟨k.mem_registered, hk⟩))
    intro kinds
    induction kinds with
    | nil => exact fun d h => h.resolve_left List.not_mem_nil
    | cons l rest ih =>
      rintro d (hmem | hd)
      · rcases List.mem_cons.1 hmem with rfl | hmem
        · exact ih _ (.inr (k.described_describe fs d))
        · exact ih _ (.inl hmem)
      · exact ih _ (.inr (hd.describe l))

/-- A settled dependency is analyzed to itself, but for its name. -/
theorem Settled.analyzed (h : Settled s fs rules d) : Renamed s d (d.analyzed s fs rules) := by
  have hhint : (if s.analyzers.hint then rules.apply d else d) = d := by
    split
    · next hs => exact RuleSet.apply_of_doneWith (h.done hs)
    · rfl
  rw [Dependency.analyzed, hhint]
  suffices hfold : ∀ kinds : List PackageKind, (∀ k ∈ kinds, k.isEnabled s = true) → ∀ d' : Dependency,
      (∀ k : PackageKind, k.isEnabled s = true → k.Described fs d') →
        Renamed s d' (kinds.foldl (fun d k => k.describe fs d) d') from
    hfold _ (fun k hk => by simpa using (List.mem_filter.1 hk).2) d h.described
  intro kinds henabled
  induction kinds with
  | nil => exact fun d' _ => .refl d'
  | cons k rest ih =>
    intro d' hd'
    have hk := henabled k List.mem_cons_self
    exact ((hd' k hk).renamed hk).trans
      (ih (fun l hl => henabled l (List.mem_cons_of_mem _ hl)) _ fun l hl => (hd' l hl).describe k)

end Settling

/-! ## Merging what is merged -/

section Merging

variable {rules : List MergeRule} {deps : List Dependency}

/-- What holds of dependencies, and of any two merged if it holds of both, holds of what is left after merging. -/
theorem mergeAll_induction {P : Dependency → Prop} (habsorb : ∀ p t, P p → P t → P (p.absorb t))
    (h : ∀ d ∈ deps, P d) : ∀ d ∈ mergeAll rules deps, P d := by
  have htree : ∀ t : MergeTree Placed, (∀ b ∈ t.members, P b.2) → P t.survivor := by
    intro t
    induction t with
    | record b => exact fun hb => hb b List.mem_cons_self
    | merged p t ihp iht =>
      exact fun hb => habsorb _ _ (ihp fun b hm => hb b (List.mem_append_left _ hm))
        (iht fun b hm => hb b (List.mem_append_right _ hm))
  intro d hd
  rw [mergeAll_eq, List.mem_map] at hd
  obtain ⟨t, ht, rfl⟩ := hd
  refine htree t fun b hb => h _ ?_
  exact List.mem_of_getElem? (mem_places.1 (mem_places_of_mem_members ht hb))

/-- Where there is nothing to merge, no two places are linked. -/
theorem not_linked_of_plan_eq_nil (h : plan rules deps = []) {x y : Placed} (hx : x ∈ places deps)
    (hy : y ∈ places deps) (hne : x.1 ≠ y.1) : linked rules x.2 y.2 = false := by
  have hkeeper : ∀ b ∈ places deps, keeper rules (group rules deps b) = some b := by
    intro b hb
    have hnot : b.1 ∉ MergeStep.emptied (plan rules deps) deps := by
      rw [h, mem_emptied]
      rintro ⟨hlt, hnone⟩
      simp [MergeStep.slots, List.getElem?_eq_getElem hlt] at hnone
    rw [mem_emptied_plan_iff rules deps hb] at hnot
    exact not_not.1 hnot
  rw [← Bool.not_eq_true]
  intro hl
  have hgroup := group_congr hx hy ((together_iff hx hy).2 (.inr hl))
  have hxy : some x = some y := by rw [← hkeeper x hx, ← hkeeper y hy, hgroup]
  exact hne (congrArg Prod.fst (Option.some.inj hxy))

/-- Dependencies of which no two are merged are not merged either if something else than their file names and package
paths changes. -/
theorem mergeAll_map_of_plan_eq_nil (h : plan rules deps = []) {f : Dependency → Dependency}
    (hname : ∀ d ∈ deps, (f d).fileName = d.fileName) (hpath : ∀ d ∈ deps, (f d).packagePath = d.packagePath) :
    mergeAll rules (deps.map f) = deps.map f := by
  have hnil : plan rules (deps.map f) = [] := by
    refine List.eq_nil_iff_forall_not_mem.2 fun t ht => ?_
    obtain ⟨x, hx, y, hy, -, hne, hl⟩ := plan_links rules _ ht
    rw [mem_places, List.getElem?_map, Option.map_eq_some_iff] at hx hy
    obtain ⟨d, hd, hdx⟩ := hx
    obtain ⟨e, he, hey⟩ := hy
    have hdm := List.mem_of_getElem? hd
    have hem := List.mem_of_getElem? he
    rw [← hdx, ← hey, linked_congr (hname d hdm) (hpath d hdm) (hname e hem) (hpath e hem)] at hl
    have hnot := not_linked_of_plan_eq_nil h (x := (x.1, d)) (y := (y.1, e)) (mem_places.2 hd) (mem_places.2 he) hne
    exact Bool.false_ne_true (hnot.symm.trans hl)
  rw [mergeAll, hnil]
  exact (reduceOption_map_some id (deps.map f)).trans (List.map_id _)

end Merging

/-! ## The main statement -/

/-- **A second run changes nothing but names.** Where the settings name no document of rules, a standard run succeeds,
and so does a second one by the same engine. It leaves the dependencies in their order and as they were, but for names
that were unset, of Swift packages. -/
theorem run_standard_twice (hs : s.hintFile = none) (net : Network) (fs : FileSystem) (ds : List Dependency) :
    let engine := Engine.standard s ds net
    let first := engine.run fs
    let second := { engine with dependencies := first.dependencies }.run fs
    first.error? = none ∧ second.error? = none ∧ first.fileSystem = fs ∧ second.fileSystem = fs ∧
      List.Forall₂ (Renamed s) first.dependencies second.dependencies := by
  intro engine first second
  obtain ⟨rules, hrules, hstable⟩ := RuleSet.exists_stable_builtin
  obtain ⟨herror, hfs, hfirst⟩ := Engine.run_standard hs hrules net fs ds
  obtain ⟨herror', hfs', hsecond⟩ := Engine.run_standard hs hrules net fs first.dependencies
  refine ⟨herror, herror', hfs, hfs', ?_⟩
  have hsettled : ∀ d ∈ first.dependencies, Settled s fs rules d := by
    have hanalyzed : ∀ d ∈ ds.map (Dependency.analyzed s fs rules), Settled s fs rules d := by
      intro d hd
      obtain ⟨e, -, rfl⟩ := List.mem_map.1 hd
      exact settled_analyzed hstable e
    show ∀ d ∈ (Engine.run _ fs).dependencies, _
    rw [hfirst]
    split
    · exact mergeAll_induction (fun _ _ => Settled.absorb) hanalyzed
    · exact hanalyzed
  have hrenamed : ∀ d ∈ first.dependencies, Renamed s d (d.analyzed s fs rules) := fun d hd => (hsettled d hd).analyzed
  have hsame : second.dependencies = first.dependencies.map (Dependency.analyzed s fs rules) := by
    refine hsecond.trans ?_
    split
    · next hon =>
      have hplan : plan MergeRule.all first.dependencies = [] := by
        show plan _ (Engine.run _ fs).dependencies = []
        rw [hfirst, if_pos hon]
        exact plan_mergeAll _ _
      refine mergeAll_map_of_plan_eq_nil hplan (fun d hd => ?_) fun d hd => ?_
      · rw [(hrenamed d hd).1]
      · rw [(hrenamed d hd).1]
    · rfl
  rw [hsame, List.forall₂_map_right_iff, List.forall₂_same]
  exact hrenamed

theorem run_standard_twice_pod :
    let engine := Engine.standard {} [.ofPath ⟨"pod/Package.swift"⟩, .ofPath ⟨"pod/pod.podspec"⟩]
    let fs : FileSystem := ⟨[], [], ⟨"/tmp"⟩, none⟩
    let first := engine.run fs
    let second := { engine with dependencies := first.dependencies }.run fs
    engine.settings.hintFile = none ∧ first.error? = none ∧ second.error? = none ∧ first.fileSystem = fs ∧
      second.fileSystem = fs ∧ List.Forall₂ (Renamed engine.settings) first.dependencies second.dependencies :=
  ⟨rfl, run_standard_twice rfl _ _ _⟩

end DependencyEvidence
