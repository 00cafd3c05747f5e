import DependencyEvidence.Proofs.Analysis.BundledGems
import DependencyEvidence.Proofs.Path.Components

/-!
# Installed gems

The specification that a bundler keeps of a gem may have been taken out of an archive. Then its record has two paths:
the gem is looked for beside the one where the file can be read, and what is told is beside the one where it was found.

* `bundledGem?_of_not_exists` and `bundledGem?_of_elsewhere`: nothing is told if there is no such gem, or if the file
  was not found in a directory of specifications;
* `exists_bundledGem?`: in all other cases the gem's directory is told, as it is beside where the file was found. Where
  the two paths are the same but for their spelling, the directory is taken from the other path, and has the same
  components nevertheless.

So it does not matter which of the two branches is taken (`PackageKind.describe_bundled`).
-/

namespace DependencyEvidence

/-! ## Two directories up -/

namespace Path

variable {p q up : Path} {name : String}

/-- The directory that holds the directory of what a path names. -/
def grandparent? (p : Path) : Option Path := p.parent?.bind parent?

theorem components_of_grandparent? (h : p.grandparent? = some up) : up.components = p.components.dropLast.dropLast := by
  obtain ⟨directory, hdirectory, hup⟩ := Option.bind_eq_some_iff.1 h
  obtain ⟨last, hlast⟩ := components_of_parent? hdirectory
  obtain ⟨inner, hinner⟩ := components_of_parent? hup
  rw [hlast, List.dropLast_concat, hinner, List.dropLast_concat]

/-- A directory with a name is in a directory. -/
theorem exists_grandparent? (h : p.parentName? = some name) : ∃ up, p.grandparent? = some up := by
  obtain ⟨directory, hdirectory, hname⟩ := Option.bind_eq_some_iff.1 h
  obtain ⟨up, hup⟩ := exists_parent?_of_fileName? hname
  exact ⟨up, Option.bind_eq_some_iff.2 ⟨directory, hdirectory, hup⟩⟩

theorem parentName?_of_samePlace (h : p.samePlace q = true) : p.parentName? = q.parentName? := by
  have hcomponents : p.components = q.components := beq_iff_eq.1 h
  rw [parentName?_eq, parentName?_eq, hcomponents]

end Path

variable {fs : FileSystem} {d : Dependency} {gem : String}

theorem Gem.components_directory (root : Path) (hgem : Path.IsName gem) :
    (Gem.directory root gem).components = root.components ++ [.name gemsName.toList, .name gem.toList] := by
  have hname : ∀ {name : String}, Path.IsName name → Path.componentOf name.toList = .name name.toList := by
    intro name h
    exact if_neg fun hup => h.2 (String.toList_inj.1 hup)
  rw [Gem.directory, Path.components_join _ hgem.1, Path.components_join _ isName_gems.1, hname hgem,
    hname isName_gems, List.append_assoc]
  rfl

/-! ## What a specification tells -/

namespace Dependency

variable {up base : Path}

/-- The gem is looked for where the file can be read. -/
theorem bundledGem?_eq (hname : d.fileName = gem ++ gemspecSuffix) (hup : d.actualPath.grandparent? = some up) :
    d.bundledGem? fs =
      if fs.pathExists (Gem.directory up gem) then
        if d.actualPath.samePlace d.filePath then some (Gem.directory up gem).text
        else if d.filePath.parentName? = some specificationsName then
          d.filePath.grandparent?.map fun base => (Gem.directory base gem).text
        else none
      else none := by
  obtain ⟨directory, hdirectory, hup⟩ := Option.bind_eq_some_iff.1 hup
  have hinstalled : gemDirectory? directory gem = some (Gem.directory up gem) := by
    rw [gemDirectory?, hup]
    rfl
  rw [bundledGem?, hname, Text.withoutSuffix?_append, hdirectory]
  simp only [Option.bind_eq_bind, Option.bind_some, hinstalled]
  cases fs.pathExists (Gem.directory up gem) with
  | false => rfl
  | true =>
    cases hplace : d.actualPath.samePlace d.filePath with
    | true => rfl
    | false =>
      cases hfound : d.filePath.parent? with
      | none => simp [Path.parentName?, hfound]
      | some specifications =>
        simp only [Path.parentName?, Path.grandparent?, hfound, gemDirectory?, Option.bind_some, Option.map_map]
        rfl

theorem bundledGem?_of_not_exists (hname : d.fileName = gem ++ gemspecSuffix)
    (hup : d.actualPath.grandparent? = some up) (hexists : ¬ fs.pathExists (Gem.directory up gem) = true) :
    d.bundledGem? fs = none := by
  rw [bundledGem?_eq hname hup, if_neg hexists]

/-- Paths of one place are both in a directory of specifications, or neither is. -/
theorem bundledGem?_of_elsewhere (hname : d.fileName = gem ++ gemspecSuffix)
    (hup : d.actualPath.grandparent? = some up) (hparent : d.actualPath.parentName? = some specificationsName)
    (helsewhere : d.filePath.parentName? ≠ some specificationsName) : d.bundledGem? fs = none := by
  have hplace : ¬ d.actualPath.samePlace d.filePath = true := by
    intro hplace
    exact helsewhere (Path.parentName?_of_samePlace hplace ▸ hparent)
  rw [bundledGem?_eq hname hup, if_neg hplace, if_neg helsewhere]
  split <;> rfl

/-- A gem that exists beside where the file can be read is told beside where the file was found. -/
theorem exists_bundledGem? (hgem : Path.IsName gem) (hname : d.fileName = gem ++ gemspecSuffix)
    (hup : d.actualPath.grandparent? = some up) (hexists : fs.pathExists (Gem.directory up gem) = true)
    (hparent : d.filePath.parentName? = some specificationsName) :
    ∃ path base, d.bundledGem? fs = some path ∧ d.filePath.grandparent? = some base ∧
      (⟨path⟩ : Path).components = base.components ++ [.name gemsName.toList, .name gem.toList] := by
  obtain ⟨base, hbase⟩ := Path.exists_grandparent? hparent
  rw [bundledGem?_eq hname hup, if_pos hexists]
  by_cases hplace : d.actualPath.samePlace d.filePath = true
  · have hcomponents : d.actualPath.components = d.filePath.components := beq_iff_eq.1 hplace
    have hsame : up.components = base.components := by
      rw [Path.components_of_grandparent? hup, Path.components_of_grandparent? hbase, hcomponents]
    rw [if_pos hplace]
    exact ⟨_, base, rfl, hbase, by rw [← hsame]; exact Gem.components_directory up hgem⟩
  · rw [if_neg hplace, if_pos hparent, hbase]
    exact ⟨_, base, rfl, rfl, Gem.components_directory base hgem⟩

end Dependency

/-! ## The main statement -/

namespace PackageKind

/-- **The package path of a bundler's specification.** Let a bundler's analyzer accept a file without a package path,
whose name is that of a gem with the ending of specifications. It sets the package path if and only if the gem's
directory exists beside the directory in which the file can be read, and the file was found in a directory of
specifications. Then the package path has the components of the gem's directory beside that one, whether the file was
taken out of an archive or not. -/
theorem describe_bundled (haccepts : rubyBundler.accepts d.actualPath = true) (hunknown : d.packagePath = none)
    (hgem : Path.IsName gem) (hname : d.fileName = gem ++ gemspecSuffix) :
    ∃ up, d.actualPath.grandparent? = some up ∧
      ((rubyBundler.describe fs d).packagePath.isSome = true ↔
        fs.pathExists (Gem.directory up gem) = true ∧ d.filePath.parentName? = some specificationsName) ∧
      ∀ path, (rubyBundler.describe fs d).packagePath = some path →
        ∃ base, d.filePath.grandparent? = some base ∧
          (⟨path⟩ : Path).components = base.components ++ [.name gemsName.toList, .name gem.toList] := by
  have hparent : d.actualPath.parentName? = some specificationsName :=
    of_decide_eq_true (Bool.and_eq_true_iff.1 haccepts).2
  obtain ⟨up, hup⟩ := Path.exists_grandparent? hparent
  have hpath : (rubyBundler.describe fs d).packagePath = d.bundledGem? fs := by
    rw [packagePath_describe, hunknown, Option.none_or, found?, if_pos haccepts]
    rfl
  rw [hpath]
  refine ⟨up, hup, ?_⟩
  by_cases hexists : fs.pathExists (Gem.directory up gem) = true
  · by_cases hfound : d.filePath.parentName? = some specificationsName
    · obtain ⟨path, base, htold, hbase, hcomponents⟩ :=
        Dependency.exists_bundledGem? hgem hname hup hexists hfound
      rw [htold]
      refine ⟨iff_of_true rfl ⟨hexists, hfound⟩, fun path' h => ⟨base, hbase, ?_⟩⟩
      rw [← Option.some.inj h, hcomponents]
    · rw [Dependency.bundledGem?_of_elsewhere hname hup hparent hfound]
      exact ⟨iff_of_false Bool.false_ne_true fun h => hfound h.2, fun _ h => by cases h⟩
  · rw [Dependency.bundledGem?_of_not_exists hname hup hexists]
    exact ⟨iff_of_false Bool.false_ne_true fun h => hexists h.1, fun _ h => by cases h⟩

theorem describe_bundled_extracted :
    let fs : FileSystem :=
      ⟨[(["tmp"], .directory), (["gems", "tmp"], .directory), (["rack", "gems", "tmp"], .directory)], [], ⟨"/tmp"⟩,
        none⟩
    let d : Dependency :=
      { Dependency.ofPath ⟨"/shop.zip//vendor/specifications/./rack.gemspec"⟩ with
        actualPath := ⟨"/tmp/specifications/rack.gemspec"⟩ }
    (rubyBundler.accepts d.actualPath = true ∧ d.packagePath = none ∧ Path.IsName "rack" ∧
      d.fileName = "rack" ++ gemspecSuffix) ∧
    ∃ path, (rubyBundler.describe fs d).packagePath = some path ∧
      (⟨path⟩ : Path).components = (⟨"/shop.zip/vendor/gems/rack"⟩ : Path).components := by
  intro fs d
  have haccepts : rubyBundler.accepts d.actualPath = true := by decide +kernel
  have hgem : Path.IsName "rack" := by decide
  have hname : d.fileName = "rack" ++ gemspecSuffix := by decide +kernel
  refine ⟨⟨haccepts, rfl, hgem, hname⟩, ?_⟩
  obtain ⟨up, hup, hset, hpath⟩ := @describe_bundled fs d _ haccepts rfl hgem hname
  obtain rfl : up = ⟨"/tmp"⟩ := Option.some.inj (hup.symm.trans (by decide +kernel))
  have hexists : fs.pathExists (Gem.directory ⟨"/tmp"⟩ "rack") = true := by decide +kernel
  have hfound : d.filePath.parentName? = some specificationsName := by decide +kernel
  obtain ⟨path, htold⟩ := Option.isSome_iff_exists.1 (hset.2 ⟨hexists, hfound⟩)
  obtain ⟨base, hbase, hcomponents⟩ := hpath path htold
  obtain rfl : base = ⟨"/shop.zip//vendor"⟩ := Option.some.inj (hbase.symm.trans (by decide +kernel))
  refine ⟨path, htold, hcomponents.trans ?_⟩
  decide +kernel

end PackageKind

end DependencyEvidence
