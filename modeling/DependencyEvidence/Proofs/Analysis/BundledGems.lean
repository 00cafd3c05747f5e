import DependencyEvidence.Proofs.Analysis.Outcome
import DependencyEvidence.Proofs.Analysis.SecondRun
import DependencyEvidence.Proofs.Merge.Order
import DependencyEvidence.Proofs.Path.Plain

/-!
# Bundled gems

A bundler keeps two files about each gem: a specification in its directory of specifications (`Gem.stub`), and one among
the files of the gem (`Gem.specification`). Both tell where the gem is installed, by different ways: the first by the
directory beside its own that has the gem's name, the second by the directory it is in.

* `packagePath_analyzed`: a record gets the package path that the first analyzer finds which accepts the file.
* `Gem.packagePath_stub` and `Gem.packagePath_specification`: for both files this is the directory of the gem.
* `linked_gemspecs`: so the two are linked if and only if these directories are equal up to case, and being linked is
  what brings two records together (`endTogether_iff`), whatever else is merged with them.
* `parentName?_survivor`: the survivor of the group of the first file is in a directory of specifications, since all of
  the group are specifications of gems, and the bundler's are preferred.
-/

namespace DependencyEvidence

variable {fs : FileSystem} {rules : RuleSet}

/-! ## Package paths -/

theorem RuleSet.key_apply (rules : RuleSet) (d : Dependency) : (rules.apply d).key = d.key := by
  have h := congrArg (fun d : Dependency => d.key) (withEvidence_foldl_step rules.rules d .empty .empty .empty)
  exact h

namespace PackageKind

variable {k : PackageKind} {d d' : Dependency}

/-- The package path that an analyzer finds for a file. -/
def found? (k : PackageKind) (fs : FileSystem) (d : Dependency) : Option String :=
  if k.accepts d.actualPath then k.packagePath? fs d else none

/-- What an analyzer finds depends on the file. -/
theorem found?_congr (h : d'.key.file = d.key.file) : k.found? fs d' = k.found? fs d := by
  have hfile : d'.filePath = d.filePath := congrArg (·.1) h
  have hactual : d'.actualPath = d.actualPath := congrArg (·.2.1) h
  have hname : d'.fileName = d.fileName := congrArg (·.2.2.1) h
  rw [found?, found?, packagePath?_congr hfile hactual hname, hactual]

theorem packagePath_describe (k : PackageKind) (d : Dependency) :
    (k.describe fs d).packagePath = d.packagePath.or (k.found? fs d) := by
  by_cases h : k.accepts d.actualPath = true
  · rw [describe_of_accepts h, found?, if_pos h]
    cases d.packagePath <;> rfl
  · rw [describe, if_neg h, found?, if_neg h, Option.or_none]

/-- A package path that is not known is the first that is found. -/
theorem packagePath_foldl_describe (kinds : List PackageKind) (d : Dependency) :
    (kinds.foldl (fun d k => k.describe fs d) d).packagePath =
      d.packagePath.or (kinds.findSome? fun k => k.found? fs d) := by
  induction kinds generalizing d with
  | nil => simp
  | cons k rest ih =>
    have hrest : (fun l : PackageKind => l.found? fs (k.describe fs d)) = fun l => l.found? fs d :=
      funext fun l => found?_congr (filledIn_describe k d).sameFile.1
    rw [List.foldl_cons, ih, packagePath_describe, hrest, List.findSome?_cons, Option.or_assoc]
    cases k.found? fs d <;> rfl

end PackageKind

/-- The package path of a record after the analyzers before the merging. -/
theorem packagePath_analyzed (d : Dependency) :
    (d.analyzed {} fs rules).packagePath =
      d.packagePath.or (PackageKind.registered.findSome? fun k => k.found? fs d) := by
  have hkey := rules.key_apply d
  have hpath : (rules.apply d).packagePath = d.packagePath := congrArg FileKey.packagePath hkey
  have hfound : (fun k : PackageKind => k.found? fs (rules.apply d)) = fun k => k.found? fs d :=
    funext fun k => PackageKind.found?_congr (congrArg FileKey.file hkey)
  have hall : d.analyzed {} fs rules =
      PackageKind.registered.foldl (fun d k => k.describe fs d) (rules.apply d) := rfl
  rw [hall, PackageKind.packagePath_foldl_describe, hpath, hfound]

/-! ## The files of a gem -/

/-- Whether a record is about the file at a path, and this is where it was found. -/
structure Dependency.IsAt (d : Dependency) (p : Path) : Prop where
  filePath : d.filePath = p
  actualPath : d.actualPath = p
  fileName : d.fileName = nameAt p

theorem Dependency.IsAt.congr {d d' : Dependency} {p : Path} (h : d.IsAt p) (hsame : SameFile d d') : d'.IsAt p where
  filePath := (congrArg (·.1) hsame.1).trans h.filePath
  actualPath := (congrArg (·.2.1) hsame.1).trans h.actualPath
  fileName := (congrArg (·.2.2.1) hsame.1).trans h.fileName

/-- Whether, besides, the package of the file is not known yet. -/
structure Dependency.FoundAt (d : Dependency) (p : Path) : Prop extends d.IsAt p where
  packagePath : d.packagePath = none

theorem Dependency.foundAt_ofPath (p : Path) : (ofPath p).FoundAt p := ⟨⟨rfl, rfl, rfl⟩, rfl⟩

theorem Text.hasSuffix_append (suffix text : String) : hasSuffix suffix (text ++ suffix) = true := by
  rw [hasSuffix_iff, String.toList_append]
  exact List.suffix_append _ _

theorem Text.withoutSuffix?_append (suffix text : String) : withoutSuffix? suffix (text ++ suffix) = some text := by
  rw [withoutSuffix?, if_pos (hasSuffix_append suffix text), String.toList_append]
  simp

theorem Path.text_join_ne_empty (p : Path) {step : String} (h : step ≠ "") : (p.join step).text ≠ "" := by
  unfold join
  split
  · exact h
  · split <;> simp [String.append_eq_empty_iff, h]

theorem pathExists_of_isDirectory {p : Path} (h : fs.isDirectory p = true) : fs.pathExists p = true := by
  unfold FileSystem.isDirectory at h
  unfold FileSystem.pathExists
  cases hlocate : fs.locate p with
  | ok place => rfl
  | error e =>
    rw [hlocate] at h
    cases h

namespace Gem

/-- The directory of a gem that a bundler has installed. -/
def directory (root : Path) (gem : String) : Path := (root.join gemsName).join gem

/-- The bundler's specification of a gem. -/
def stub (root : Path) (gem : String) : Path := (root.join specificationsName).join (gem ++ gemspecSuffix)

/-- A specification among the files of a gem. -/
def specification (root : Path) (gem name : String) : Path := (directory root gem).join (name ++ gemspecSuffix)

variable {root : Path} {gem name : String} {d : Dependency}

theorem isName_specifications : Path.IsName specificationsName := by decide

theorem isName_gems : Path.IsName gemsName := by decide

theorem isName_gemspec (h : '/' ∉ name.toList) : Path.IsName (name ++ gemspecSuffix) := by
  have hlong : ∀ t : String, t.length < 8 → name ++ gemspecSuffix ≠ t := by
    rintro t ht rfl
    rw [String.length_append] at ht
    have hsuffix : gemspecSuffix.length = 8 := by decide
    omega
  have hsuffix : '/' ∉ gemspecSuffix.toList := by decide
  refine ⟨⟨fun hnil => ?_, fun hdot => ?_, ?_⟩, hlong ".." (by decide)⟩
  · exact hlong "" (by decide) (String.toList_inj.1 hnil)
  · exact hlong "." (by decide) (String.toList_inj.1 hdot)
  · rw [String.toList_append, List.mem_append]
    exact fun hslash => hslash.elim h hsuffix

theorem isPlain_directory (hroot : root.IsPlain) (hgem : Path.IsName gem) : (directory root gem).IsPlain :=
  (hroot.join isName_gems.1).join hgem.1

theorem parent?_stub (hroot : root.IsPlain) (hgem : Path.IsName gem) :
    (stub root gem).parent? = some (root.join specificationsName) :=
  (hroot.join isName_specifications.1).parent?_join (isName_gemspec hgem.1.2.2).1

theorem parentName?_stub (hroot : root.IsPlain) (hgem : Path.IsName gem) :
    (stub root gem).parentName? = some specificationsName :=
  hroot.parentName?_join isName_specifications (isName_gemspec hgem.1.2.2).1

theorem fileName?_stub (hroot : root.IsPlain) (hgem : Path.IsName gem) :
    (stub root gem).fileName? = some (gem ++ gemspecSuffix) :=
  (hroot.join isName_specifications.1).fileName?_join (isName_gemspec hgem.1.2.2)

theorem parent?_specification (hroot : root.IsPlain) (hgem : Path.IsName gem) (hname : '/' ∉ name.toList) :
    (specification root gem name).parent? = some (directory root gem) :=
  (isPlain_directory hroot hgem).parent?_join (isName_gemspec hname).1

theorem parentName?_specification (hroot : root.IsPlain) (hgem : Path.IsName gem) (hname : '/' ∉ name.toList) :
    (specification root gem name).parentName? = some gem :=
  (hroot.join isName_gems.1).parentName?_join hgem (isName_gemspec hname).1

theorem fileName?_specification (hroot : root.IsPlain) (hgem : Path.IsName gem) (hname : '/' ∉ name.toList) :
    (specification root gem name).fileName? = some (name ++ gemspecSuffix) :=
  (isPlain_directory hroot hgem).fileName?_join (isName_gemspec hname)

/-- The name of a file, as a record holds it. -/
theorem fileName_of_isAt {p : Path} {fileName : String} (hd : d.IsAt p) (h : p.fileName? = some fileName) :
    d.fileName = fileName := by
  rw [hd.fileName, Dependency.nameAt, h, Option.getD_some]

/-- What the analyzers before the merging find for a file of which nothing is known yet. -/
theorem packagePath_of_foundAt {p : Path} (hd : d.FoundAt p) :
    (d.analyzed {} fs rules).packagePath = PackageKind.registered.findSome? fun k => k.found? fs d := by
  rw [packagePath_analyzed, hd.packagePath, Option.none_or]

/-- The bundler's specification tells the directory of the gem, if it exists. -/
theorem packagePath_stub (hroot : root.IsPlain) (hgem : Path.IsName gem)
    (hexists : fs.pathExists (directory root gem) = true) (hd : d.FoundAt (stub root gem)) :
    (d.analyzed {} fs rules).packagePath = some (directory root gem).text := by
  have hgemName := fileName_of_isAt hd.toIsAt (fileName?_stub hroot hgem)
  have haccepts : PackageKind.rubyBundler.accepts (stub root gem) = true := by
    simp [PackageKind.accepts, Path.endsWith, fileName?_stub hroot hgem, parentName?_stub hroot hgem,
      Text.hasSuffix_append]
  have hplace : (stub root gem).samePlace (stub root gem) = true := by simp [Path.samePlace]
  have hinstalled : Dependency.gemDirectory? (root.join specificationsName) gem = some (directory root gem) := by
    rw [Dependency.gemDirectory?, hroot.parent?_join isName_specifications.1]
    rfl
  have hbundled : d.bundledGem? fs = some (directory root gem).text := by
    simp [Dependency.bundledGem?, hgemName, Text.withoutSuffix?_append, hd.actualPath, hd.filePath,
      parent?_stub hroot hgem, hinstalled, hexists, hplace]
  have hfound : PackageKind.rubyBundler.found? fs d = some (directory root gem).text := by
    rw [PackageKind.found?, hd.actualPath, if_pos haccepts]
    exact hbundled
  rw [packagePath_of_foundAt hd, PackageKind.registered, List.findSome?_cons, hfound]

/-- A specification among the files of a gem tells the directory where it is. -/
theorem packagePath_specification (hroot : root.IsPlain) (hgem : Path.IsName gem) (hother : gem ≠ specificationsName)
    (hname : '/' ∉ name.toList) (hd : d.FoundAt (specification root gem name)) :
    (d.analyzed {} fs rules).packagePath = some (directory root gem).text := by
  have hparentName := parentName?_specification hroot hgem hname
  have hbundler : ¬ PackageKind.rubyBundler.accepts (specification root gem name) = true := by
    simp [PackageKind.accepts, hparentName, hother]
  have haccepts : PackageKind.rubyGemspec.accepts (specification root gem name) = true := by
    simp [PackageKind.accepts, Path.endsWith, fileName?_specification hroot hgem hname, hparentName, hother,
      Text.hasSuffix_append]
  have hne : (directory root gem).text ≠ "" :=
    Path.text_join_ne_empty _ fun hnil => hgem.1.1 (by rw [hnil]; rfl)
  have hpackage : d.packageDirectory? = some (directory root gem).text := by
    simp [Dependency.packageDirectory?, hd.filePath, parent?_specification hroot hgem hname, hne]
  have hnone : PackageKind.rubyBundler.found? fs d = none := by
    rw [PackageKind.found?, hd.actualPath, if_neg hbundler]
  have hfound : PackageKind.rubyGemspec.found? fs d = some (directory root gem).text := by
    rw [PackageKind.found?, hd.actualPath, if_pos haccepts]
    exact hpackage
  rw [packagePath_of_foundAt hd, PackageKind.registered, List.findSome?_cons, hnone, List.findSome?_cons, hfound]

/-- A file in a bundler's directory of specifications is one that is preferred. -/
theorem preferred_stub (hroot : root.IsPlain) (hgem : Path.IsName gem) (hd : d.IsAt (stub root gem)) :
    MergeRule.rubyGemspec.accepts d = true ∧ MergeRule.rubyGemspec.prefersFirst d = true := by
  have hlower : specificationsName.map Char.toLower = specificationsName := by
    rw [← String.toList_inj, String.toList_map]
    decide
  constructor
  · rw [MergeRule.accepts, fileName_of_isAt hd (fileName?_stub hroot hgem)]
    exact Text.hasSuffix_append _ _
  · rw [MergeRule.prefersFirst, Dependency.parentName?, hd.actualPath, parentName?_stub hroot hgem]
    simp [hlower]

theorem accepts_specification (hroot : root.IsPlain) (hgem : Path.IsName gem) (hname : '/' ∉ name.toList)
    (hd : d.IsAt (specification root gem name)) : MergeRule.rubyGemspec.accepts d = true := by
  rw [MergeRule.accepts, fileName_of_isAt hd (fileName?_specification hroot hgem hname)]
  exact Text.hasSuffix_append _ _

end Gem

/-! ## Groups of specifications -/

section Groups

variable {merges : List MergeRule} {a b : Dependency}

/-- Two specifications of gems are linked if their packages are the same up to case. -/
theorem linked_gemspecs {p q : String} (ha : MergeRule.rubyGemspec.accepts a = true)
    (hb : MergeRule.rubyGemspec.accepts b = true) (hp : a.packagePath = some p) (hq : b.packagePath = some q) :
    linked MergeRule.all a b = equalIgnoringCase p q := by
  have hsame : samePackage a b = equalIgnoringCase p q := by rw [samePackage, hp, hq]
  rw [← hsame, Bool.eq_iff_iff, linked_iff]
  constructor
  · rintro ⟨r, -, hjoins⟩
    exact (joins_iff.1 hjoins).2
  · intro h
    exact ⟨.rubyGemspec, by simp [MergeRule.all], joins_iff.2 ⟨⟨ha, hb⟩, h⟩⟩

/-- What is linked is of the kind of one rule. -/
theorem accepts_of_linked {r : MergeRule} (ha : r.accepts a = true) (h : linked merges a b = true) :
    r.accepts b = true := by
  obtain ⟨s, -, hjoins⟩ := linked_iff.1 h
  obtain ⟨hsa, hsb⟩ := (joins_iff.1 hjoins).1
  obtain rfl := accepts_unique ha hsa
  exact hsb

/-- Where some member of a group is preferred, its keeper is. -/
theorem preferred_of_keeper {members : List Placed} {b c : Placed} (hb : b ∈ members)
    (hpreferred : preferred merges b.2 = true) (h : keeper merges members = some c) : preferred merges c.2 = true := by
  rcases Option.or_eq_some_iff.1 h with hfound | ⟨hnone, -⟩
  · have hc := List.find?_some hfound
    exact hc
  · exact absurd hpreferred (List.find?_eq_none.1 hnone b hb)

variable {deps : List Dependency} {t : MergeTree Placed} {x y : Placed}

/-- Two records come together if and only if they are of one group. -/
theorem endTogether_iff (hx : x ∈ places deps) (hy : y ∈ places deps) :
    EndTogether merges deps x y ↔ together merges x y = true := by
  constructor
  · rintro ⟨t, ht, hxt, hyt⟩
    exact together_trans hx (root_mem_places ht) hy (together_root ht hxt)
      (together_symm hy (root_mem_places ht) (together_root ht hyt))
  · intro h
    obtain ⟨t, ht, hxt⟩ := @exists_mem_members merges deps x hx
    have hy' : together merges y t.root = true :=
      together_trans hy hx (root_mem_places ht) (together_symm hx hy h) (together_root ht hxt)
    exact ⟨t, ht, hxt, (mem_members_iff ht).2 ⟨hy, hy'⟩⟩

/-- Two specifications of gems come together if and only if their packages are the same up to case. -/
theorem endTogether_gemspecs {p q : String} (hx : x ∈ places deps) (hy : y ∈ places deps)
    (hxa : MergeRule.rubyGemspec.accepts x.2 = true) (hya : MergeRule.rubyGemspec.accepts y.2 = true)
    (hp : x.2.packagePath = some p) (hq : y.2.packagePath = some q) :
    EndTogether MergeRule.all deps x y ↔ equalIgnoringCase p q = true := by
  have hlinked := linked_gemspecs hxa hya hp hq
  have hsame : x = y → linked MergeRule.all x.2 y.2 = true := by
    rintro rfl
    rw [hlinked, Option.some.inj (hp.symm.trans hq), equalIgnoringCase, beq_self_eq_true]
  rw [endTogether_iff hx hy, together_iff hx hy, or_iff_right_of_imp hsame, hlinked]

/-- The survivor of a group that holds a bundler's specification is in a directory of specifications. -/
theorem parentName?_survivor (ht : t ∈ mergedTrees MergeRule.all deps) (hx : x ∈ t.members)
    (haccepts : MergeRule.rubyGemspec.accepts x.2 = true) (hprefers : MergeRule.rubyGemspec.prefersFirst x.2 = true) :
    ∃ parent, t.survivor.parentName? = some parent ∧ parent.map Char.toLower = specificationsName := by
  have hplace := mem_places_of_mem_members ht hx
  have hpreferred : preferred MergeRule.all x.2 = true :=
    List.any_eq_true.2 ⟨.rubyGemspec, by simp [MergeRule.all], by rw [haccepts, hprefers]; rfl⟩
  have hroot : preferred MergeRule.all t.root.2 = true :=
    preferred_of_keeper ((members_perm_group ht).subset hx) hpreferred (keeper_root ht)
  have hkind : MergeRule.rubyGemspec.accepts t.root.2 = true := by
    rcases (together_iff hplace (root_mem_places ht)).1 (together_root ht hx) with rfl | hlinked
    · exact haccepts
    · exact accepts_of_linked haccepts hlinked
  obtain ⟨r, -, hr⟩ := List.any_eq_true.1 hroot
  obtain ⟨hraccepts, hrprefers⟩ := Bool.and_eq_true_iff.1 hr
  obtain rfl := accepts_unique hraccepts hkind
  have hpath : t.survivor.actualPath = t.root.2.actualPath := congrArg FileKey.actualPath t.key_survivor
  have hparent : t.survivor.parentName? = t.root.2.parentName? := congrArg Path.parentName? hpath
  rw [MergeRule.prefersFirst, Option.any_eq_true] at hrprefers
  obtain ⟨parent, hname, hlower⟩ := hrprefers
  exact ⟨parent, hparent.trans hname, by simpa using hlower⟩

end Groups

/-! ## Where the records of a run end -/

/-- The places of the records of a tree. -/
def MergeTree.places (t : MergeTree Placed) : List Nat := t.members.map Prod.fst

/-- Whether some trees tell how the records of a working set came together in a run.

* What the trees have become is left after the run, in their order.
* Each place of the working set is in one tree, once, with the record about the same file.
* What a tree has become is one of its records, and has all others directly below it. -/
structure CameTogether (before after : List Dependency) (trees : List (MergeTree Placed)) : Prop where
  survivors : after = trees.map MergeTree.survivor
  places : (trees.flatMap MergeTree.places).Perm (List.range before.length)
  records : ∀ t ∈ trees, ∀ b ∈ t.members, ∃ d, before[b.1]? = some d ∧ SameFile d b.2
  held : ∀ t ∈ trees, ∀ b ∈ t.members, t.survivor.key = b.2.key ∨ ∃ r ∈ t.survivor.related, r.key = b.2.key

section Runs

variable {ds : List Dependency} {i j : Nat} {d d' : Dependency}

/-- Merging what was analyzed by itself, where each record stays about its file. -/
theorem cameTogether_mergedTrees (merges : List MergeRule) {f : Dependency → Dependency} (hf : ∀ d, SameFile d (f d))
    (ds : List Dependency) : CameTogether ds (mergeAll merges (ds.map f)) (mergedTrees merges (ds.map f)) where
  survivors := mergeAll_eq _ _
  places := by
    have hplaces := (members_mergeForest (plan merges (ds.map f)) (ds.map f)).map Prod.fst
    rw [map_fst_places, List.length_map, List.map_flatMap] at hplaces
    exact hplaces
  records t ht b hb := by
    have hplace := mem_places.1 (mem_places_of_mem_members ht hb)
    rw [List.getElem?_map, Option.map_eq_some_iff] at hplace
    obtain ⟨d, hd, hb⟩ := hplace
    exact ⟨d, hd, hb ▸ hf d⟩
  held t _ b hb := key_of_mem_members hb

/-- A tree has a place of the working set if it has the record that is there. -/
theorem mem_places_iff {merges : List MergeRule} {t : MergeTree Placed} (ht : t ∈ mergedTrees merges ds)
    (hi : ds[i]? = some d) : i ∈ t.places ↔ (i, d) ∈ t.members := by
  constructor
  · intro h
    obtain ⟨b, hb, rfl⟩ := List.mem_map.1 h
    have hplace := mem_places.1 (mem_places_of_mem_members ht hb)
    obtain rfl := Option.some.inj (hi.symm.trans hplace)
    exact hb
  · exact fun h => List.mem_map.2 ⟨(i, d), h, rfl⟩

end Runs

/-! ## The main statement -/

/-- **The two specifications of a gem are merged.** Let a working set hold the bundler's specification of a gem that is
installed, and a specification among the files of some gem, at two places, and otherwise be arbitrary. A standard run
brings the two together if and only if the directories of the two gems are equal up to case. What the first one has
become is in a directory of specifications, whatever else was merged with it. -/
theorem Engine.run_standard_bundled {net : Network} {fs : FileSystem} {ds : List Dependency} {root root' : Path}
    {gem gem' name : String} {i j : Nat} {d d' : Dependency}
    (hroot : root.IsPlain) (hgem : Path.IsName gem) (hexists : fs.isDirectory (Gem.directory root gem) = true)
    (hroot' : root'.IsPlain) (hgem' : Path.IsName gem') (hother : gem' ≠ specificationsName)
    (hname : '/' ∉ name.toList)
    (hi : ds[i]? = some d) (hd : d.FoundAt (Gem.stub root gem))
    (hj : ds[j]? = some d') (hd' : d'.FoundAt (Gem.specification root' gem' name)) :
    ((standard {} ds net).run fs).error? = none ∧
      ∃ trees, CameTogether ds ((standard {} ds net).run fs).dependencies trees ∧
      ((∃ t ∈ trees, i ∈ t.places ∧ j ∈ t.places) ↔
        equalIgnoringCase (Gem.directory root gem).text (Gem.directory root' gem').text = true) ∧
      ∀ t ∈ trees, i ∈ t.places →
        ∃ parent, t.survivor.parentName? = some parent ∧ parent.map Char.toLower = specificationsName := by
  obtain ⟨rules, hrules, -⟩ := RuleSet.exists_stable_builtin
  obtain ⟨herror, -, hdependencies⟩ := @run_standard {} rules rfl hrules net fs ds
  have hon : ({} : Settings).analyzers.dependencyMerging = true := rfl
  rw [if_pos hon] at hdependencies
  have hfile : ∀ d : Dependency, SameFile d (d.analyzed {} fs rules) := sameFile_analyzed rules
  obtain ⟨haccepts, hprefers⟩ := Gem.preferred_stub hroot hgem (hd.congr (hfile d))
  have haccepts' := Gem.accepts_specification hroot' hgem' hname (hd'.congr (hfile d'))
  have hpath : (d.analyzed {} fs rules).packagePath = some (Gem.directory root gem).text :=
    Gem.packagePath_stub hroot hgem (pathExists_of_isDirectory hexists) hd
  have hpath' : (d'.analyzed {} fs rules).packagePath = some (Gem.directory root' gem').text :=
    Gem.packagePath_specification hroot' hgem' hother hname hd'
  generalize Dependency.analyzed {} fs rules = analyzed at *
  have hi' : (ds.map analyzed)[i]? = some (analyzed d) := by rw [List.getElem?_map, hi, Option.map_some]
  have hj' : (ds.map analyzed)[j]? = some (analyzed d') := by rw [List.getElem?_map, hj, Option.map_some]
  refine ⟨herror, mergedTrees MergeRule.all (ds.map analyzed), ?_, ?_, fun t ht hit => ?_⟩
  · rw [hdependencies]
    exact cameTogether_mergedTrees _ hfile ds
  · have hx : (i, analyzed d) ∈ places (ds.map analyzed) := mem_places.2 hi'
    have hy : (j, analyzed d') ∈ places (ds.map analyzed) := mem_places.2 hj'
    rw [← endTogether_gemspecs hx hy haccepts haccepts' hpath hpath']
    exact exists_congr fun t => and_congr_right fun ht => and_congr (mem_places_iff ht hi') (mem_places_iff ht hj')
  · exact parentName?_survivor ht ((mem_places_iff ht hi').1 hit) haccepts hprefers

theorem Engine.run_standard_bundled_rack :
    let fs : FileSystem := ⟨[(["vendor"], .directory), (["gems", "vendor"], .directory),
      (["rack", "gems", "vendor"], .directory)], [], ⟨"/tmp"⟩, none⟩
    let ds : List Dependency := [.ofPath ⟨"Vendor/gems/Rack/rack.gemspec"⟩,
      .ofPath ⟨"vendor/gems/rack/lib/rack.rb"⟩, .ofPath ⟨"vendor/specifications/rack.gemspec"⟩]
    (((⟨"vendor"⟩ : Path).IsPlain ∧ Path.IsName "rack" ∧ fs.isDirectory (Gem.directory ⟨"vendor"⟩ "rack") = true) ∧
      ((⟨"Vendor"⟩ : Path).IsPlain ∧ Path.IsName "Rack" ∧ "Rack" ≠ specificationsName ∧ '/' ∉ "rack".toList) ∧
      Gem.stub ⟨"vendor"⟩ "rack" = ⟨"vendor/specifications/rack.gemspec"⟩ ∧
      Gem.specification ⟨"Vendor"⟩ "Rack" "rack" = ⟨"Vendor/gems/Rack/rack.gemspec"⟩) ∧
    ((Engine.standard {} ds).run fs).error? = none ∧
      ∃ trees, CameTogether ds ((Engine.standard {} ds).run fs).dependencies trees ∧
        ∃ t ∈ trees, 2 ∈ t.places ∧ 0 ∈ t.places ∧
          ∃ parent, t.survivor.parentName? = some parent ∧ parent.map Char.toLower = specificationsName := by
  have hroot : (⟨"vendor"⟩ : Path).IsPlain := ⟨false, ["vendor".toList], by decide, by decide⟩
  have hroot' : (⟨"Vendor"⟩ : Path).IsPlain := ⟨false, ["Vendor".toList], by decide, by decide⟩
  have hgem : Path.IsName "rack" := by decide
  have hgem' : Path.IsName "Rack" := by decide
  have hother : "Rack" ≠ specificationsName := by decide
  have hname : '/' ∉ "rack".toList := by decide
  have hsame :
      equalIgnoringCase (Gem.directory ⟨"vendor"⟩ "rack").text (Gem.directory ⟨"Vendor"⟩ "Rack").text = true := by
    decide +kernel
  intro fs ds
  have hexists : fs.isDirectory (Gem.directory ⟨"vendor"⟩ "rack") = true := by decide +kernel
  have hstub : ds[2]? = some (.ofPath (Gem.stub ⟨"vendor"⟩ "rack")) := rfl
  have hspecification : ds[0]? = some (.ofPath (Gem.specification ⟨"Vendor"⟩ "Rack" "rack")) := rfl
  obtain ⟨hnone, trees, htrees, htogether, hparent⟩ := Engine.run_standard_bundled hroot hgem hexists hroot' hgem'
    hother hname hstub (Dependency.foundAt_ofPath _) hspecification (Dependency.foundAt_ofPath _)
  obtain ⟨t, ht, hi, hj⟩ := htogether.2 hsame
  refine ⟨⟨⟨hroot, hgem, hexists⟩, ⟨hroot', hgem', hother, hname⟩, rfl, rfl⟩, hnone, trees, htrees, ?_⟩
  exact ⟨t, ht, hi, hj, hparent t ht hi⟩

end DependencyEvidence
