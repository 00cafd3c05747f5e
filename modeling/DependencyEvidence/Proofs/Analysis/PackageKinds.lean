import DependencyEvidence.Proofs.Analysis.Run

/-!
# Kinds of packages

A file is of one kind of package at most (`PackageKind.eq_of_accepts`). So of all analyzers of packages one at most has
to do with a dependency, and it reads nothing that it writes, so that it finds the same a second time.

* `filledIn_describe`, `filledIn_foldl_describe`: one description, and any number of them, fill in what was unknown and
  change nothing else.
* `describe_describe`: describing once more changes nothing.
* `foldl_describe_eq`: any number of descriptions come to the one by the kind that the file is of, if that is among
  them.
* `foldl_describe_of_same_kinds`: so neither their order counts nor how often each is made.
-/

namespace DependencyEvidence

variable {fs : FileSystem}

/-- Whether the second dependency is the first one with some of what was unknown filled in: the ecosystem, the package
path or the name. -/
structure Dependency.FilledIn (d d' : Dependency) : Prop where
  rest : d' = { d with ecosystem := d'.ecosystem, packagePath := d'.packagePath, name := d'.name }
  ecosystem : d.ecosystem ≠ .unknown → d'.ecosystem = d.ecosystem
  packagePath : ∀ p, d.packagePath = some p → d'.packagePath = some p
  name : ∀ n, d.name = some n → d'.name = some n

namespace Dependency.FilledIn

variable {d d' d'' : Dependency}

theorem refl (d : Dependency) : d.FilledIn d := ⟨by cases d; rfl, fun _ => rfl, fun _ h => h, fun _ h => h⟩

theorem trans (h : d.FilledIn d') (h' : d'.FilledIn d'') : d.FilledIn d'' where
  rest := by rw [h'.rest, h.rest]
  ecosystem hknown := by
    have hsame := h.ecosystem hknown
    rw [h'.ecosystem (hsame ▸ hknown), hsame]
  packagePath p hp := h'.packagePath p (h.packagePath p hp)
  name n hn := h'.name n (h.name n hn)

end Dependency.FilledIn

namespace PackageKind

variable {k l : PackageKind} {d d' : Dependency} {kinds kinds' : List PackageKind} {p : Path}

/-! ## The kind of a file -/

/-- How the name of a file of this kind ends. -/
def ending : PackageKind → String
  | rubyGemspec => gemspecSuffix
  | rubyBundler => gemspecSuffix
  | swiftManifest => manifestName
  | podspec => podspecSuffix

theorem ending_of_accepts (h : k.accepts p = true) :
    ∃ name, p.fileName? = some name ∧ k.ending.toList <:+ name.toList := by
  have hends : ∀ {suffix : String}, p.endsWith suffix = true →
      ∃ name, p.fileName? = some name ∧ suffix.toList <:+ name.toList := by
    intro suffix hsuffix
    obtain ⟨name, hname, hsuffix⟩ := (Option.any_eq_true _ _).1 hsuffix
    exact ⟨name, hname, Text.hasSuffix_iff.1 hsuffix⟩
  cases k with
  | rubyGemspec => exact hends (Bool.and_eq_true_iff.1 h).1
  | rubyBundler => exact hends (Bool.and_eq_true_iff.1 h).1
  | swiftManifest => exact ⟨manifestName, of_decide_eq_true h, List.suffix_rfl⟩
  | podspec => exact hends h

/-- Endings are told from each other by the end of a name: none of them ends in another one. -/
theorem ending_eq {name : List Char} (hk : k.ending.toList <:+ name) (hl : l.ending.toList <:+ name) :
    k.ending = l.ending := by
  have hnested : ∀ k l : PackageKind, k.ending.toList <:+ l.ending.toList → k.ending = l.ending := by
    intro k l
    cases k <;> cases l <;> decide
  rcases List.suffix_or_suffix_of_suffix hk hl with h | h
  · exact hnested k l h
  · exact (hnested l k h).symm

/-- A file is of one kind at most. -/
theorem eq_of_accepts (hk : k.accepts p = true) (hl : l.accepts p = true) : k = l := by
  obtain ⟨name, hname, hsuffix⟩ := ending_of_accepts hk
  obtain ⟨name', hname', hsuffix'⟩ := ending_of_accepts hl
  obtain rfl : name = name' := Option.some.inj (hname.symm.trans hname')
  have hending := ending_eq hsuffix hsuffix'
  -- the two kinds of gemspecs end alike, and differ in the directory
  cases k <;> cases l <;> first | rfl | exact absurd hending (by decide) | simp_all [accepts]

/-- The first of some kinds that a file is of. -/
def among? (kinds : List PackageKind) (p : Path) : Option PackageKind := kinds.find? fun k => k.accepts p

theorem among?_cons_of_accepts (h : k.accepts p = true) : among? (k :: kinds) p = some k := by
  rw [among?, List.find?_cons, h]

theorem among?_cons_of_not_accepts (h : ¬ k.accepts p = true) : among? (k :: kinds) p = among? kinds p := by
  rw [among?, List.find?_cons, Bool.eq_false_iff.2 h, among?]

/-- The first kind that a file is of is the only one. -/
theorem among?_eq_some_iff : among? kinds p = some k ↔ k ∈ kinds ∧ k.accepts p = true := by
  constructor
  · intro h
    have hk := List.find?_some h
    exact ⟨List.mem_of_find?_eq_some h, hk⟩
  · rintro ⟨hmem, hk⟩
    induction kinds with
    | nil => cases hmem
    | cons l rest ih =>
      by_cases hl : l.accepts p = true
      · rw [among?_cons_of_accepts hl, eq_of_accepts hl hk]
      · rw [among?_cons_of_not_accepts hl]
        exact ih ((List.mem_cons.1 hmem).resolve_left fun heq => hl (heq ▸ hk))

/-- Which of some kinds a file is of depends on neither their order nor their number. -/
theorem among?_congr (h : ∀ k, k ∈ kinds ↔ k ∈ kinds') (p : Path) : among? kinds p = among? kinds' p := by
  ext k
  rw [among?_eq_some_iff, among?_eq_some_iff, h]

/-! ## One description -/

theorem ecosystem_ne_unknown (k : PackageKind) : k.ecosystem ≠ .unknown := by cases k <;> decide

/-- The package path is looked up by the paths and the name of the file. -/
theorem packagePath?_congr (hfile : d'.filePath = d.filePath) (hactual : d'.actualPath = d.actualPath)
    (hname : d'.fileName = d.fileName) : k.packagePath? fs d' = k.packagePath? fs d := by
  cases k <;>
    simp only [packagePath?, Dependency.bundledGem?, Dependency.packageDirectory?, hfile, hactual, hname]

/-- The name is looked up by the path of the file and the evidence for the product. -/
theorem packageName?_congr (hactual : d'.actualPath = d.actualPath) (hproduct : d'.product = d.product) :
    k.packageName? d' = k.packageName? d := by
  cases k <;>
    simp only [packageName?, Dependency.swiftName?, Dependency.parentName?, hactual, hproduct]

theorem describe_of_accepts (h : k.accepts d.actualPath = true) :
    k.describe fs d = { d with
      ecosystem := if d.ecosystem = .unknown then k.ecosystem else d.ecosystem
      packagePath := d.packagePath <|> k.packagePath? fs d
      name := d.name <|> k.packageName? d } := if_pos h

theorem describe_of_not_accepts (h : ¬ k.accepts d.actualPath = true) : k.describe fs d = d := if_neg h

theorem filledIn_describe (k : PackageKind) (d : Dependency) : d.FilledIn (k.describe fs d) := by
  by_cases h : k.accepts d.actualPath = true
  · rw [describe_of_accepts h]
    exact ⟨rfl, fun hknown => if_neg hknown, fun p hp => by simp [hp], fun n hn => by simp [hn]⟩
  · rw [describe_of_not_accepts h]
    exact .refl d

theorem actualPath_describe (k : PackageKind) (d : Dependency) : (k.describe fs d).actualPath = d.actualPath :=
  congrArg (·.actualPath) (filledIn_describe k d).rest

/-- A description reads nothing that it writes, so that the second one finds what the first one found. -/
theorem describe_describe (k : PackageKind) (d : Dependency) : k.describe fs (k.describe fs d) = k.describe fs d := by
  by_cases h : k.accepts d.actualPath = true
  · have hagain : k.accepts (k.describe fs d).actualPath = true := (actualPath_describe k d).symm ▸ h
    have hfilled : d.FilledIn (k.describe fs d) := filledIn_describe k d
    have hpath : k.packagePath? fs (k.describe fs d) = k.packagePath? fs d := by
      rw [hfilled.rest]
      exact packagePath?_congr rfl rfl rfl
    have hname : k.packageName? (k.describe fs d) = k.packageName? d := by
      rw [hfilled.rest]
      exact packageName?_congr rfl rfl
    have hkept : ∀ known found : Option String, ((known <|> found) <|> found) = (known <|> found) := by
      intro known found
      cases known <;> cases found <;> rfl
    rw [describe_of_accepts hagain, hpath, hname, describe_of_accepts h]
    have hknown : (if d.ecosystem = .unknown then k.ecosystem else d.ecosystem) ≠ .unknown := by
      split
      · exact k.ecosystem_ne_unknown
      · next hknown => exact hknown
    simp only [hkept, if_neg hknown]
  · rw [describe_of_not_accepts h, describe_of_not_accepts h]

/-! ## Any number of descriptions -/

theorem filledIn_foldl_describe (kinds : List PackageKind) (d : Dependency) :
    d.FilledIn (kinds.foldl (fun d k => k.describe fs d) d) := by
  induction kinds generalizing d with
  | nil => exact .refl d
  | cons k rest ih => exact (filledIn_describe k d).trans (ih _)

/-- Descriptions come to the one by the kind that the file is of. -/
theorem foldl_describe_eq (kinds : List PackageKind) (d : Dependency) :
    kinds.foldl (fun d k => k.describe fs d) d = (among? kinds d.actualPath).elim d fun k => k.describe fs d := by
  induction kinds generalizing d with
  | nil => rfl
  | cons k rest ih =>
    rw [List.foldl_cons, ih, actualPath_describe]
    by_cases h : k.accepts d.actualPath = true
    · rw [among?_cons_of_accepts h]
      cases hl : among? rest d.actualPath with
      | none => rfl
      | some l =>
        obtain rfl : k = l := eq_of_accepts h (among?_eq_some_iff.1 hl).2
        exact describe_describe k d
    · rw [among?_cons_of_not_accepts h, describe_of_not_accepts h]

theorem foldl_describe_congr (hsame : ∀ k, k ∈ kinds ↔ k ∈ kinds') (d : Dependency) :
    kinds.foldl (fun d k => k.describe fs d) d = kinds'.foldl (fun d k => k.describe fs d) d := by
  rw [foldl_describe_eq, foldl_describe_eq, among?_congr hsame]

/-- **Neither the order nor the number of descriptions matters.** Let the same kinds of packages be described for a
dependency, in any order and any number of times each. Then the outcome is the same, also where their analyzers take all
dependencies of a run: a path is of one kind at most, and a description changes nothing the second time. However many
are made, they fill in an unknown ecosystem, package path or name, and change nothing else. -/
theorem foldl_describe_of_same_kinds (hsame : ∀ k, k ∈ kinds ↔ k ∈ kinds') (d : Dependency) :
    kinds.foldl (fun d k => k.describe fs d) d = kinds'.foldl (fun d k => k.describe fs d) d ∧
    (∀ s ds, ((kinds.map Analyzer.packagePaths).filter (·.isEnabled s)).foldl (fun ds a => a.change s fs ds) ds =
      ((kinds'.map Analyzer.packagePaths).filter (·.isEnabled s)).foldl (fun ds a => a.change s fs ds) ds) ∧
    d.FilledIn (kinds.foldl (fun d k => k.describe fs d) d) ∧
    (∀ k : PackageKind, k.describe fs (k.describe fs d) = k.describe fs d) ∧
    ∀ (p : Path) (k l : PackageKind), k.accepts p = true → l.accepts p = true → k = l := by
  refine ⟨foldl_describe_congr hsame d, fun s ds => ?_, filledIn_foldl_describe kinds d,
    fun k => describe_describe k d, fun p k l => eq_of_accepts⟩
  have henabled : ∀ k, k ∈ kinds.filter (·.isEnabled s) ↔ k ∈ kinds'.filter (·.isEnabled s) := by
    intro k
    rw [List.mem_filter, List.mem_filter, hsame]
  rw [Engine.foldl_packagePaths, Engine.foldl_packagePaths]
  exact List.map_congr_left fun d _ => foldl_describe_congr henabled d

theorem foldl_describe_of_same_kinds_kingfisher :
    let fs : FileSystem := ⟨[], [], ⟨"/tmp"⟩, none⟩
    let d := Dependency.ofPath ⟨"/src/Kingfisher/Package.swift"⟩
    let kinds : List PackageKind := [.podspec, .swiftManifest, .rubyGemspec, .swiftManifest, .rubyBundler]
    let outcome := registered.foldl (fun d k => k.describe fs d) d
    (∀ k, k ∈ registered ↔ k ∈ kinds) ∧ outcome = kinds.foldl (fun d k => k.describe fs d) d ∧
      outcome.packagePath = some "/src/Kingfisher" ∧ outcome.name = some "Kingfisher" ∧ d.FilledIn outcome := by
  intro fs d kinds outcome
  have hsame : ∀ k, k ∈ registered ↔ k ∈ kinds := by
    intro k
    cases k <;> decide
  obtain ⟨heq, -, hfilled, -⟩ := @foldl_describe_of_same_kinds fs _ _ hsame d
  refine ⟨hsame, heq, ?_, ?_, hfilled⟩
  · decide +kernel
  · decide +kernel

end PackageKind

end DependencyEvidence
