import DependencyEvidence.Analysis.Analyzer
import DependencyEvidence.Text.Suffix

/-!
# Package paths

Some files describe the package that they belong to. Such a file is recognised by its name (`PackageKind.accepts`), and
gets the directory of the installed package for its package path, so that several files of one package can be told to
belong together. What is known already is never replaced.
-/

namespace DependencyEvidence

/-- The kinds of files that describe a package. -/
inductive PackageKind where
  /-- The specification of a gem among its files. -/
  | rubyGemspec
  /-- The specification of a gem that a bundler has installed, in a directory of specifications. -/
  | rubyBundler
  /-- The manifest of a Swift package. -/
  | swiftManifest
  /-- The specification of a pod. -/
  | podspec
deriving DecidableEq, Repr

/-! ## Names of files -/

/-- The name of the directory in which a bundler keeps specifications. -/
def specificationsName : String := "specifications"

/-- The name of the directory in which a bundler keeps gems. -/
def gemsName : String := "gems"

/-- The end of the name of a gem's specification. -/
def gemspecSuffix : String := ".gemspec"

/-- The end of the name of a pod's specification. -/
def podspecSuffix : String := ".podspec"

/-- The name of the manifest of a Swift package. -/
def manifestName : String := "Package.swift"

/-- Whether the name at the end of a path has a suffix. -/
def Path.endsWith (p : Path) (suffix : String) : Bool := p.fileName?.any (Text.hasSuffix suffix)

namespace Dependency

/-- The directory under which the file was found. -/
def packageDirectory? (d : Dependency) : Option String :=
  match d.filePath.parent? with
  | some p => if p.text = "" then none else some p.text
  | none => none

/-- The directory of a gem, given the directory that holds its specification. -/
def gemDirectory? (specifications : Path) (gem : String) : Option Path :=
  specifications.parent?.map fun p => (p.join gemsName).join gem

/-- The directory of the gem of a specification that a bundler has installed. It has to exist where the specification
can be read; where the specification was found under another path, the directory is given relative to that one. -/
def bundledGem? (d : Dependency) (fs : FileSystem) : Option String := do
  let gem ← Text.withoutSuffix? gemspecSuffix d.fileName
  let installed ← gemDirectory? (← d.actualPath.parent?) gem
  if !fs.pathExists installed then none
  else if d.actualPath.samePlace d.filePath then some installed.text
  else do
    let specifications ← d.filePath.parent?
    if specifications.fileName? = some specificationsName then (gemDirectory? specifications gem).map (·.text) else none

/-- The name of a Swift package: the one that its manifest tells, or that of its directory. -/
def swiftName? (d : Dependency) : Option String :=
  match d.product.entries.find? fun e => e.source = manifestName && e.name = "name" with
  | some e => some e.value
  | none => d.parentName?

end Dependency

namespace PackageKind

/-- Whether a file is of this kind. -/
def accepts : PackageKind → Path → Bool
  | rubyGemspec, p => p.endsWith gemspecSuffix && p.parentName? ≠ some specificationsName
  | rubyBundler, p => p.endsWith gemspecSuffix && p.parentName? = some specificationsName
  | swiftManifest, p => p.fileName? = some manifestName
  | podspec, p => p.endsWith podspecSuffix

/-- The ecosystem of the package. -/
def ecosystem : PackageKind → Ecosystem
  | rubyGemspec => .ruby
  | rubyBundler => .ruby
  | swiftManifest => .swift
  | podspec => .cocoaPods

/-- The package path of a file of this kind. -/
def packagePath? (k : PackageKind) (fs : FileSystem) (d : Dependency) : Option String :=
  match k with
  | rubyBundler => d.bundledGem? fs
  | _ => d.packageDirectory?

/-- The name of the package, where the file tells it. -/
def packageName? (k : PackageKind) (d : Dependency) : Option String :=
  match k with
  | swiftManifest => d.swiftName?
  | _ => none

/-- Fills in what a file of this kind tells and what is not known yet. -/
def describe (k : PackageKind) (fs : FileSystem) (d : Dependency) : Dependency :=
  if k.accepts d.actualPath then
    { d with
      ecosystem := if d.ecosystem = .unknown then k.ecosystem else d.ecosystem
      packagePath := d.packagePath <|> k.packagePath? fs d
      name := d.name <|> k.packageName? d }
  else d

/-- The name of the analyzer. -/
def analyzerName : PackageKind → String
  | rubyGemspec => "Ruby Gemspec Analyzer"
  | rubyBundler => "Ruby Bundler Analyzer"
  | swiftManifest => "SWIFT Package Manager Analyzer"
  | podspec => "CocoaPods Analyzer"

/-- Whether the analyzer takes part. -/
def isEnabled : PackageKind → Settings → Bool
  | rubyGemspec, s => s.analyzers.rubyGemspec
  | rubyBundler, s => s.analyzers.rubyBundler
  | swiftManifest, s => s.analyzers.swiftPackageManager
  | podspec, s => s.analyzers.cocoaPods

end PackageKind

/-- Describes the packages of the files of one kind. -/
def Analyzer.packagePaths (k : PackageKind) : Analyzer :=
  .simple k.analyzerName .informationCollection k.isEnabled (.each fun fs d => (k.describe fs d, none))

end DependencyEvidence
