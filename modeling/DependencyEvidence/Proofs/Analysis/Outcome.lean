import DependencyEvidence.Proofs.Analysis.PackageKinds
import DependencyEvidence.Proofs.Hints.Loading
import DependencyEvidence.Proofs.Hints.Maps
import DependencyEvidence.Proofs.Hints.Stability
import DependencyEvidence.Proofs.Merge.Conservation
import DependencyEvidence.Proofs.Merge.Survivors

/-!
# Outcomes of standard runs

A standard run fails only if its hint rules cannot be loaded, and then it changes nothing. Otherwise no record and no
evidence is lost, but for what hint rules remove (`Engine.run_standard_outcome`).

* Hint rules: what a dependency says is still said after a list of rules, if none of them that fired removes it
  (`contains_apply`).
* The analyzers before the merging leave all that tells a file (`Dependency.files`) as it was (`files_analyzed`).
* Merging: what is left are trees of what there was (`exists_trees`), and a survivor says what its members said
  (`contains_survivor`).
-/

namespace DependencyEvidence

/-! ## What rules leave -/

/-- Whether a rule removes something from a dependency: it fires on the dependency as the rules before it have left it,
and has an observation of the same identity among what it removes from the axis. -/
def RuleSet.Removes (rules : RuleSet) (d : Dependency) (a : Axis) (e : Evidence) : Prop :=
  ∃ before r after, rules.rules = before ++ r :: after ∧ r.fires (before.foldl HintRule.step d) = true ∧
    ∃ x ∈ r.remove.get a, x.same e = true

section Rules

variable {d : Dependency} {a : Axis} {e : Evidence}

/-- One rule removes what it says, if it fires. -/
theorem contains_step (r : HintRule) (h : (d.evidence a).contains e = true) :
    ((HintRule.step d r).evidence a).contains e = true ∨
      (r.fires d = true ∧ ∃ x ∈ r.remove.get a, x.same e = true) := by
  rw [Collection.contains_iff] at h ⊢
  have hmaps : ((HintRule.step d r).evidence a).toMap = HintRule.stepMaps d.fileName d.maps r a :=
    congrFun (HintRule.maps_step r d) a
  rw [hmaps, HintRule.stepMaps]
  by_cases hfires : r.FiresOn d.fileName d.maps
  · rw [if_pos hfires, HintRule.changeMaps, EvidenceMap.without]
    by_cases hremoved : e.identity ∈ (r.remove.get a).map Evidence.identity
    · obtain ⟨x, hx, hidentity⟩ := List.mem_map.1 hremoved
      exact .inr ⟨(r.fires_iff d).2 hfires, x, hx, (Evidence.same_iff x e).2 hidentity⟩
    · rw [if_neg hremoved]
      exact .inl fun hbot => h (sup_eq_bot_iff.1 hbot).1
  · rw [if_neg hfires]
    exact .inl h

theorem contains_foldl_step (rules : List HintRule) (h : (d.evidence a).contains e = true) :
    ((rules.foldl HintRule.step d).evidence a).contains e = true ∨ (RuleSet.mk rules []).Removes d a e := by
  induction rules generalizing d with
  | nil => exact .inl h
  | cons r rest ih =>
    rcases contains_step r h with hkept | ⟨hfires, hremoved⟩
    · rcases ih hkept with hkept | ⟨before, r', after, hrules, hfires, hremoved⟩
      · exact .inl hkept
      · exact .inr ⟨r :: before, r', after, congrArg (r :: ·) hrules, hfires, hremoved⟩
    · exact .inr ⟨[], r, rest, rfl, hfires, hremoved⟩

/-- **What a dependency says is still said** after the rules of a set, if no rule removes it. -/
theorem contains_apply (rules : RuleSet) (h : (d.evidence a).contains e = true) :
    ((rules.apply d).evidence a).contains e = true ∨ rules.Removes d a e := by
  rcases contains_foldl_step rules.rules h with hkept | hremoved
  · refine .inl ?_
    cases a with
    | vendor =>
      -- duplications add vendors and remove none
      rw [Collection.contains_iff] at hkept ⊢
      show (Duplication.applyTo rules.duplications (rules.rules.foldl HintRule.step d).vendor).toMap _ ≠ ⊥
      rw [Duplication.applyTo, Collection.toMap_extend]
      exact fun hbot => hkept (sup_eq_bot_iff.1 hbot).1
    | product => exact hkept
    | version => exact hkept
  · exact .inr hremoved

end Rules

/-! ## What tells a file -/

/-- The part of a key that no analyzer changes. -/
def FileKey.file (k : FileKey) : Path × Path × String × String := (k.filePath, k.actualPath, k.fileName, k.sha256)

/-- The files of a dependency and of all that is below it. -/
def Dependency.files (d : Dependency) : List (Path × Path × String × String) := d.keys.map FileKey.file

/-- Whether two dependencies are about the same file and have the same below them. -/
def SameFile (d d' : Dependency) : Prop := d'.key.file = d.key.file ∧ d'.related = d.related

section Files

variable {s : Settings} {fs : FileSystem} {d d' d'' : Dependency}

theorem SameFile.trans (h : SameFile d d') (h' : SameFile d' d'') : SameFile d d'' :=
  ⟨h'.1.trans h.1, h'.2.trans h.2⟩

theorem SameFile.files (h : SameFile d d') : d'.files = d.files := by
  rw [Dependency.files, Dependency.files, Dependency.keys_eq, Dependency.keys_eq d, List.map_cons, List.map_cons, h.1,
    h.2]

theorem sameFile_apply (rules : RuleSet) (d : Dependency) : SameFile d (rules.apply d) := by
  have hfold := withEvidence_foldl_step rules.rules d .empty .empty .empty
  have hkey := congrArg (fun d : Dependency => d.key.file) hfold
  have hrelated := congrArg (fun d : Dependency => d.related) hfold
  exact ⟨hkey, hrelated⟩

theorem Dependency.FilledIn.sameFile (h : d.FilledIn d') : SameFile d d' :=
  ⟨congrArg (·.key.file) h.rest, congrArg (·.related) h.rest⟩

theorem Dependency.FilledIn.evidence (h : d.FilledIn d') (a : Axis) : d'.evidence a = d.evidence a := by
  rw [h.rest]
  cases a <;> rfl

/-- Descriptions of packages change neither the file nor the evidence. -/
theorem foldl_describe (kinds : List PackageKind) (d : Dependency) :
    SameFile d (kinds.foldl (fun d k => k.describe fs d) d) ∧
      ∀ a, (kinds.foldl (fun d k => k.describe fs d) d).evidence a = d.evidence a := by
  have hfilled : d.FilledIn (kinds.foldl (fun d k => k.describe fs d) d) :=
    PackageKind.filledIn_foldl_describe kinds d
  exact ⟨hfilled.sameFile, hfilled.evidence⟩

/-- What is analyzed by itself stays the same file. -/
theorem sameFile_analyzed (rules : RuleSet) (d : Dependency) : SameFile d (d.analyzed s fs rules) := by
  rw [Dependency.analyzed]
  cases s.analyzers.hint with
  | true => exact (sameFile_apply rules d).trans (foldl_describe _ _).1
  | false => exact (foldl_describe _ d).1

/-- What is analyzed by itself loses evidence to hint rules only. -/
theorem contains_analyzed (rules : RuleSet) {a : Axis} {e : Evidence} (h : (d.evidence a).contains e = true) :
    ((d.analyzed s fs rules).evidence a).contains e = true ∨ (s.analyzers.hint = true ∧ rules.Removes d a e) := by
  rw [Dependency.analyzed, (foldl_describe _ _).2]
  cases s.analyzers.hint with
  | true => exact (contains_apply rules h).imp id fun hremoved => ⟨rfl, hremoved⟩
  | false => exact .inl h

end Files

/-! ## What merging leaves -/

section Trees

/-- Whether merging takes part or not, what is left are trees of what there was. -/
theorem exists_trees (on : Bool) (rules : List MergeRule) (ds : List Dependency) :
    ∃ trees : List (MergeTree Placed), (if on then mergeAll rules else id) ds = trees.map MergeTree.survivor ∧
      (trees.flatMap MergeTree.members).Perm (places ds) := by
  cases on with
  | true => exact ⟨mergedTrees rules ds, mergeAll_eq rules ds, members_mergeForest _ _⟩
  | false =>
    refine ⟨(places ds).map .record, ?_, ?_⟩
    · rw [List.map_map]
      exact (map_snd_places ds).symm
    · rw [List.flatMap_map]
      exact .of_eq (List.flatMap_singleton' _)

/-- A survivor is the record at the root of its tree, and has every other member directly below it. -/
theorem key_of_mem_members {t : MergeTree Placed} {b : Placed} (hb : b ∈ t.members) :
    t.survivor.key = b.2.key ∨ ∃ r ∈ t.survivor.related, r.key = b.2.key := by
  rcases List.mem_cons.1 (t.members_perm.subset hb) with rfl | hb
  · exact .inl t.key_survivor
  · obtain ⟨u, hu, rfl⟩ := List.mem_map.1 hb
    refine .inr ⟨u.survivor.takeRelated.2, ?_, u.key_survivor⟩
    exact (MergeTree.related_dependency _ t).symm.subset (List.mem_append_right _ (List.mem_map_of_mem hu))

/-- A survivor says what its members said. -/
theorem contains_survivor {t : MergeTree Placed} {b : Placed} (hb : b ∈ t.members) {a : Axis} {e : Evidence}
    (h : (b.2.evidence a).contains e = true) : (t.survivor.evidence a).contains e = true := by
  induction t with
  | record c =>
    obtain rfl := List.mem_singleton.1 hb
    exact h
  | merged p q ihp ihq =>
    rw [Collection.contains_iff]
    show ((p.survivor.absorb q.survivor).evidence a).toMap _ ≠ ⊥
    rw [Dependency.toMap_evidence_absorb]
    intro hbot
    obtain ⟨hpbot, hqbot⟩ := sup_eq_bot_iff.1 hbot
    rcases List.mem_append.1 hb with hb | hb
    · exact Collection.contains_iff.1 (ihp hb) hpbot
    · exact Collection.contains_iff.1 (ihq hb) hqbot

/-- Trees that hold each of some dependencies once hold their files once. -/
theorem files_survivors {trees : List (MergeTree Placed)} {ds : List Dependency}
    (h : (trees.flatMap MergeTree.members).Perm (places ds)) :
    ((trees.map MergeTree.survivor).flatMap Dependency.files).Perm (ds.flatMap Dependency.files) := by
  have hkeys := (keys_survivors h).map FileKey.file
  rw [List.map_flatMap, List.map_flatMap] at hkeys
  exact hkeys

end Trees

/-! ## The main statement -/

namespace Engine

variable {net : Network} {s : Settings} {fs fs' : FileSystem} {rules : RuleSet}

/-- How a standard run goes on: with rules that can be loaded, or not at all. -/
theorem loaded_or_failed (net : Network) (s : Settings) (fs : FileSystem) :
    (∃ rules fs', Loaded net s fs builtinRules rules fs' ∧
      (s.analyzers.hint = true → (RuleSet.load fs s builtinRules net).1 = .ok rules)) ∨
    (s.analyzers.hint = true ∧ ∃ error fs', RuleSet.load fs s builtinRules net = (.error error, fs')) := by
  cases hs : s.analyzers.hint with
  | true =>
    rcases hload : RuleSet.load fs s builtinRules net with ⟨error | rules, fs'⟩
    · exact .inr ⟨rfl, error, fs', rfl⟩
    · exact .inl ⟨rules, fs', by rw [Loaded, if_pos hs, hload], fun _ => rfl⟩
  | false => exact .inl ⟨.empty, fs, by simp [Loaded, hs], fun h => by cases h⟩

/-- What a standard run whose rules can be loaded leaves: the same files, in trees of what there was, with all evidence
that no hint rule removes. -/
theorem run_standard_kept (h : Loaded net s fs builtinRules rules fs') (ds : List Dependency) :
    (((standard s ds net).run fs).dependencies.flatMap Dependency.files).Perm (ds.flatMap Dependency.files) ∧
      ∃ trees : List (MergeTree Placed), ((standard s ds net).run fs).dependencies = trees.map MergeTree.survivor ∧
        (trees.flatMap fun t => t.members.map Prod.fst).Perm (List.range ds.length) ∧
        ∀ t ∈ trees, ∀ b ∈ t.members, ∃ d, ds[b.1]? = some d ∧
          (t.survivor.key.file = d.key.file ∨ ∃ r ∈ t.survivor.related, r.key.file = d.key.file) ∧
          ∀ a, ∀ e ∈ (d.evidence a).entries, (t.survivor.evidence a).contains e = true ∨
            (s.analyzers.hint = true ∧ rules.Removes d a e) := by
  obtain ⟨-, -, hdependencies⟩ := run_standard_of_loaded h ds
  obtain ⟨trees, hsurvivors, hmembers⟩ := exists_trees s.analyzers.dependencyMerging MergeRule.all
    (ds.map (Dependency.analyzed s fs' rules))
  rw [hdependencies, hsurvivors]
  refine ⟨?_, trees, rfl, ?_, fun t ht b hb => ?_⟩
  · refine (files_survivors hmembers).trans (.of_eq ?_)
    rw [List.flatMap_map]
    exact List.flatMap_congr fun d _ => (sameFile_analyzed rules d).files
  · rw [← List.map_flatMap, ← List.length_map (Dependency.analyzed s fs' rules), ← map_fst_places]
    exact hmembers.map Prod.fst
  · have hplace := mem_places.1 (hmembers.subset (List.mem_flatMap.2 ⟨t, ht, hb⟩))
    rw [List.getElem?_map, Option.map_eq_some_iff] at hplace
    obtain ⟨d, hd, hb2⟩ := hplace
    have hfile : b.2.key.file = d.key.file := hb2 ▸ (sameFile_analyzed rules d).1
    refine ⟨d, hd, ?_, fun a e he => ?_⟩
    · rcases key_of_mem_members hb with hkey | ⟨r, hr, hkey⟩
      · exact .inl (by rw [hkey, hfile])
      · exact .inr ⟨r, hr, by rw [hkey, hfile]⟩
    · have hsaid : (d.evidence a).contains e = true := List.any_eq_true.2 ⟨e, he, (Evidence.same_iff e e).2 rfl⟩
      rcases contains_analyzed rules hsaid with hkept | hremoved
      · exact .inl (contains_survivor hb (hb2 ▸ hkept))
      · exact .inr hremoved

/-- **A standard run** never fails on a dependency, whatever a network delivers.

* It fails if and only if the analyzer of hints takes part and its rules cannot be loaded. It says so, and the
  dependencies stay as they were.
* Otherwise it succeeds, and the files of all records are the same as before. What is left are trees of what there
  was, each record at its place in one of them. What a tree has become is one of its records and has all others below
  it. It says on each axis what any of them said, unless a hint rule that fired on the record removes that. -/
theorem run_standard_outcome (net : Network) (s : Settings) (fs : FileSystem) (ds : List Dependency) :
    let run := (standard s ds net).run fs
    let loaded := (RuleSet.load fs s builtinRules net).1
    (∀ failures, run.error? ≠ some (.analysis failures)) ∧
      (∀ name error, run.error? = some (.preparation name error) ↔
        name = "Hint Analyzer" ∧ s.analyzers.hint = true ∧ ∃ e, loaded = .error e ∧ error = .hints e) ∧
      (run.error? ≠ none → run.dependencies = ds) ∧
      ((s.analyzers.hint = true → ∃ rules, loaded = .ok rules) →
        run.error? = none ∧ (run.dependencies.flatMap Dependency.files).Perm (ds.flatMap Dependency.files) ∧
        ∃ trees : List (MergeTree Placed), run.dependencies = trees.map MergeTree.survivor ∧
          (trees.flatMap fun t => t.members.map Prod.fst).Perm (List.range ds.length) ∧
          ∀ t ∈ trees, ∀ b ∈ t.members, ∃ d, ds[b.1]? = some d ∧
            (t.survivor.key.file = d.key.file ∨ ∃ r ∈ t.survivor.related, r.key.file = d.key.file) ∧
            ∀ a, ∀ e ∈ (d.evidence a).entries, (t.survivor.evidence a).contains e = true ∨
              (s.analyzers.hint = true ∧ ∃ rules, loaded = .ok rules ∧ rules.Removes d a e)) := by
  intro run loaded
  rcases loaded_or_failed net s fs with ⟨rules, fs', hloaded, hrules⟩ | ⟨hs, error, fs', hload⟩
  · have hnone : run.error? = none := (run_standard_of_loaded hloaded ds).1
    obtain ⟨hfiles, trees, htrees, hplaces, hkept⟩ := run_standard_kept hloaded ds
    rw [hnone]
    refine ⟨fun _ h => ?_, fun name error => ?_, fun h => absurd rfl h,
      fun _ => ⟨rfl, hfiles, trees, htrees, hplaces, ?_⟩⟩
    · cases h
    · constructor
      · intro h
        cases h
      · rintro ⟨-, hs, e, he, -⟩
        have hok : loaded = .ok rules := hrules hs
        rw [hok] at he
        cases he
    · intro t ht b hb
      obtain ⟨d, hd, hfile, hsaid⟩ := hkept t ht b hb
      exact ⟨d, hd, hfile, fun a e he => (hsaid a e he).imp id fun ⟨hs, hremoved⟩ => ⟨hs, rules, hrules hs, hremoved⟩⟩
  · have hrun : run = ⟨ds, some (.preparation "Hint Analyzer" (.hints error)), [.preparation 0], fs'⟩ :=
      run_standard_of_failed hs hload ds
    have hfailed : loaded = .error error := congrArg Prod.fst hload
    rw [hrun, hfailed]
    refine ⟨fun _ h => ?_, fun name error' => ?_, fun _ => rfl, fun h => ?_⟩
    · cases h
    · constructor
      · intro h
        obtain ⟨hname, herror⟩ := RunError.preparation.inj (Option.some.inj h)
        exact ⟨hname.symm, hs, error, rfl, herror.symm⟩
      · rintro ⟨rfl, -, e, he, rfl⟩
        rw [Except.error.inj he]
    · obtain ⟨rules, hok⟩ := h hs
      cases hok

/-- A document of one rule. -/
def acmeRules : String := "<hints><vendorDuplicatingHint value='acme corp' duplicate='acme'/></hints>"

/-- A network that delivers one document, the end of which is missing past the proxies. -/
def acmeNetwork : Network := fun mode url =>
  if url = "http://[::1]/hints.xml" then .content acmeRules.toUTF8 (mode == .relaxed) else .nothing

/-- Settings that name a document which only a network can deliver. -/
def acmeSettings : Settings := { hintFile := some "http://[::1]/hints.xml" }

/-- A file system with a directory for temporary files. -/
def emptySystem : FileSystem := ⟨[(["tmp"], .directory)], [], ⟨"/tmp"⟩, none⟩

theorem document?_acme :
    RuleSet.document? acmeNetwork emptySystem acmeSettings "http://[::1]/hints.xml" = some acmeRules.toUTF8 := by
  have hurl : isUrlLocation "http://[::1]/hints.xml" = true := by decide +kernel
  have htemporary : RuleSet.hasTemporary emptySystem acmeSettings = true := by decide +kernel
  have hparse : Url.parse? "http://[::1]/hints.xml" = some .elsewhere := by decide +kernel
  rw [RuleSet.document?, if_pos hurl, if_pos htemporary, RuleSet.fetched?, hparse]
  simp [Network.complete?, acmeNetwork]

theorem exists_ofText_acme :
    ∃ acme, RuleSet.ofText acmeRules = .ok acme ∧ acme.duplications = [⟨"acme corp", "acme"⟩] := by
  have h : (RuleSet.ofText acmeRules).toOption.any
      (fun r => decide (r.duplications = [⟨"acme corp", "acme"⟩])) = true := by decide +kernel
  cases hread : RuleSet.ofText acmeRules with
  | error e => rw [hread] at h; cases h
  | ok acme => rw [hread] at h; exact ⟨acme, rfl, of_decide_eq_true h⟩

/-- The second attempt to fetch the document succeeds, and so does the run. -/
theorem run_standard_outcome_delivered :
    (∃ rules acme, RuleSet.ofText builtinRules = .ok rules ∧ acme.duplications = [⟨"acme corp", "acme"⟩] ∧
      (RuleSet.load emptySystem acmeSettings builtinRules acmeNetwork).1 = .ok (RuleSet.append rules acme)) ∧
    ((standard acmeSettings [.ofPath ⟨"lib/acme.jar"⟩] acmeNetwork).run emptySystem).error? = none ∧
    (((standard acmeSettings [.ofPath ⟨"lib/acme.jar"⟩] acmeNetwork).run emptySystem).dependencies.flatMap
      Dependency.files).Perm [(⟨"lib/acme.jar"⟩, ⟨"lib/acme.jar"⟩, "acme.jar", "")] := by
  obtain ⟨rules, hrules, -⟩ := RuleSet.exists_stable_builtin
  obtain ⟨acme, hacme, hrule⟩ := exists_ofText_acme
  have hreads : RuleSet.Reads (RuleSet.document? acmeNetwork emptySystem acmeSettings "http://[::1]/hints.xml") acme :=
    ⟨_, _, document?_acme, RuleSet.fromUTF8?_toUTF8 acmeRules, hacme⟩
  have hload : (RuleSet.load emptySystem acmeSettings builtinRules acmeNetwork).1 = .ok (rules.append acme) :=
    RuleSet.loadOver_eq_ok_iff.2 ⟨rules, hrules, .inr ⟨_, acme, rfl, hreads, rfl⟩⟩
  obtain ⟨-, -, -, hsuccess⟩ := run_standard_outcome acmeNetwork acmeSettings emptySystem [.ofPath ⟨"lib/acme.jar"⟩]
  obtain ⟨herror, hfiles, -⟩ := hsuccess fun _ => ⟨_, hload⟩
  exact ⟨⟨rules, acme, hrules, hrule, hload⟩, herror, hfiles⟩

end Engine

end DependencyEvidence
