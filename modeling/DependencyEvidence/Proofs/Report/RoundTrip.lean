import DependencyEvidence.Proofs.Evidence.FiniteMap
import DependencyEvidence.Proofs.Json.RoundTrip
import DependencyEvidence.Report

/-!
# Reports read back

A report is a document of records, each with the terms of its vendors and products behind its fields. Read as input it
gives the dependencies that it is about (`Dependency.parseAll?_report`).

* Values are taken for documents in `Proofs/Json/RoundTrip`: all that is written here is printable
  (`Resolved.printable_document`).
* Readers take the levels of nesting that are left. `Json.depth` counts the levels of a value, and a container that is
  not too deep leaves enough for what it holds (`exists_levels_array`, `exists_levels_record`).
* A field is read back by its name (`requiredText?_of_lookup` and its kin). Fields of other names, the terms among them,
  are passed over (`fields?_record`).
* `ofJson?_record` reads a dependency back, by induction on the dependencies that were folded into it.
-/

namespace DependencyEvidence

/-! ## Levels of nesting -/

namespace Json

mutual

/-- How many containers are nested in a value. -/
def depth : Json → Nat
  | .array items => itemDepth items + 1
  | .object members => memberDepth members + 1
  | _ => 0

/-- How many containers are nested in some items. -/
def itemDepth : List Json → Nat
  | [] => 0
  | v :: rest => max v.depth (itemDepth rest)

/-- How many containers are nested in some members. -/
def memberDepth : List (Option String × Json) → Nat
  | [] => 0
  | (_, v) :: rest => max v.depth (memberDepth rest)

end

theorem itemDepth_le {items : List Json} {n : Nat} : itemDepth items ≤ n ↔ ∀ v ∈ items, v.depth ≤ n := by
  induction items with
  | nil => simp [itemDepth]
  | cons v rest ih => rw [itemDepth, Nat.max_le, ih, List.forall_mem_cons]

theorem memberDepth_le {members : List (Option String × Json)} {n : Nat} :
    memberDepth members ≤ n ↔ ∀ m ∈ members, m.2.depth ≤ n := by
  induction members with
  | nil => simp [memberDepth]
  | cons m rest ih =>
    obtain ⟨name, v⟩ := m
    rw [memberDepth, Nat.max_le, ih, List.forall_mem_cons]

/-- An array takes one level and leaves the others to its items. -/
theorem exists_levels_array {items : List Json} {levels : Nat} (h : (Json.array items).depth ≤ levels) :
    ∃ inner, levels = inner + 1 ∧ ∀ v ∈ items, v.depth ≤ inner := by
  rw [depth] at h
  obtain ⟨inner, rfl⟩ : ∃ inner, levels = inner + 1 := ⟨levels - 1, by omega⟩
  exact ⟨inner, rfl, itemDepth_le.1 (Nat.le_of_succ_le_succ h)⟩

/-- A record takes one level and leaves the others to its members. -/
theorem exists_levels_record {members : List (String × Json)} {levels : Nat}
    (h : (Json.record members).depth ≤ levels) :
    ∃ inner, levels = inner + 1 ∧ ∀ m ∈ members, m.2.depth ≤ inner := by
  rw [record, depth] at h
  obtain ⟨inner, rfl⟩ : ∃ inner, levels = inner + 1 := ⟨levels - 1, by omega⟩
  have hmembers := memberDepth_le.1 (Nat.le_of_succ_le_succ h)
  exact ⟨inner, rfl, fun m hm => hmembers _ (List.mem_map_of_mem hm)⟩

theorem depth_record_le {members : List (String × Json)} {inner : Nat} (h : ∀ m ∈ members, m.2.depth ≤ inner) :
    (Json.record members).depth ≤ inner + 1 := by
  rw [record, depth]
  refine Nat.succ_le_succ (memberDepth_le.2 fun m hm => ?_)
  obtain ⟨member, hmember, rfl⟩ := List.mem_map.1 hm
  exact h member hmember

end Json

/-! ## Fields -/

/-- The known fields of a record are found among others. -/
theorem Json.fields?_record {names : List String} {known extra : List (String × Json)}
    (hknown : ∀ m ∈ known, m.1 ∈ names) (hdistinct : (known.map Prod.fst).Nodup)
    (hextra : ∀ m ∈ extra, m.1 ∉ names) : (Json.record (known ++ extra)).fields? names = some known := by
  have hnamed : ((known ++ extra).map fun m => (some m.1, m.2)).mapM (fun m => m.1.map fun name => (name, m.2)) =
      some (known ++ extra) := mapM_map_eq_some fun m _ => rfl
  have hall : known.filter (fun m => names.contains m.1) = known :=
    List.filter_eq_self.2 fun m hm => by simpa using hknown m hm
  have hnone : extra.filter (fun m => names.contains m.1) = [] :=
    List.filter_eq_nil_iff.2 fun m hm => by simpa using hextra m hm
  have hfilter : (known ++ extra).filter (fun m => names.contains m.1) = known := by
    rw [List.filter_append, hall, hnone, List.append_nil]
  rw [Json.record, Json.fields?, hnamed]
  show (if (((known ++ extra).filter fun m => names.contains m.1).map Prod.fst).Nodup then some _ else none) = _
  rw [hfilter, if_pos hdistinct]

section Fields

variable {fields : List (String × Json)} {name : String}

theorem requiredText?_of_lookup {text : String} (h : fields.lookup name = some (.ofText text)) :
    requiredText? fields name = some text := by
  rw [requiredText?, h]
  rfl

theorem textOr?_of_lookup {text default : String} (h : fields.lookup name = some (.ofText text)) :
    textOr? fields name default = some text := by
  rw [textOr?, h]
  rfl

theorem optionalText?_of_lookup {text : Option String} (h : fields.lookup name = some (.ofText? text)) :
    optionalText? fields name = some text := by
  rw [optionalText?, h]
  cases text <;> rfl

theorem ecosystemOr?_of_lookup {levels : Nat} {e : Ecosystem} (h : fields.lookup name = some (.ofText e.tag)) :
    ecosystemOr? levels fields name = some e := by
  rw [ecosystemOr?, h]
  exact congrArg some (Ecosystem.ofTag_tag e)

end Fields

/-! ## Evidence and references -/

theorem Collection.ofJson?_of_depth_le {levels : Nat} (c : Collection) (h : c.toJson.depth ≤ levels) :
    ofJson? levels c.toJson = some c := by
  obtain ⟨inner, rfl, hitems⟩ := Json.exists_levels_array h
  have hread : (c.entries.map Evidence.toJson).mapM (Evidence.ofJson? inner) = some c.entries := by
    refine mapM_map_eq_some fun e he => ?_
    obtain ⟨left, rfl, -⟩ := Json.exists_levels_record (hitems _ (List.mem_map_of_mem he))
    exact ofJson?_toJson_evidence left e
  rw [toJson, ofJson?, hread, Option.map_some, ofList_entries]

theorem collectionOr?_of_lookup {fields : List (String × Json)} {name : String} {levels : Nat} {c : Collection}
    (hlookup : fields.lookup name = some c.toJson) (h : c.toJson.depth ≤ levels) :
    collectionOr? levels fields name = some c := by
  rw [collectionOr?, hlookup]
  exact Collection.ofJson?_of_depth_le c h

/-- A name behind all others goes to the end. -/
theorem insertName_of_lt {name : String} {l : List String} (h : ∀ x ∈ l, x < name) :
    insertName name l = l ++ [name] := by
  induction l with
  | nil => rfl
  | cons x rest ih =>
    obtain ⟨hx, hrest⟩ := List.forall_mem_cons.1 h
    have hne : name ≠ x := fun heq => String.lt_irrefl x (heq ▸ hx)
    rw [insertName, if_neg (String.lt_asymm hx), if_neg hne, ih hrest]
    rfl

namespace References

/-- Names that ascend go to the end, in their order. -/
theorem names_extend (r : References) (names : List String) (h : (r.names ++ names).Pairwise (· < ·)) :
    (r.extend names).names = r.names ++ names := by
  induction names generalizing r with
  | nil => exact (List.append_nil _).symm
  | cons name rest ih =>
    have hlast : ∀ x ∈ r.names, x < name := fun x hx => (List.pairwise_append.1 h).2.2 x hx name List.mem_cons_self
    have hinsert : (r.insert name).names = r.names ++ [name] := insertName_of_lt hlast
    have hrest := ih (r.insert name) (by rwa [hinsert, List.append_assoc])
    rw [hinsert, List.append_assoc] at hrest
    exact hrest

theorem ofList_names (r : References) : ofList r.names = r := by
  obtain ⟨names, ascending⟩ := r
  have h : (ofList names).names = names := names_extend empty names ascending
  generalize ofList names = s at h
  subst h
  rfl

end References

theorem referencesOr?_of_lookup {fields : List (String × Json)} {name : String} {levels : Nat} {r : References}
    (hlookup : fields.lookup name = some (.array (r.names.map .ofText)))
    (h : (Json.array (r.names.map .ofText)).depth ≤ levels) : referencesOr? levels fields name = some r := by
  obtain ⟨inner, rfl, -⟩ := Json.exists_levels_array h
  have hread : (r.names.map Json.ofText).mapM Json.text? = some r.names := mapM_map_eq_some fun _ _ => rfl
  unfold referencesOr?
  rw [hlookup]
  show ((r.names.map Json.ofText).mapM Json.text?).map References.ofList = some r
  rw [hread, Option.map_some, References.ofList_names]

/-! ## Records -/

namespace Dependency

theorem map_fst_members (d : Dependency) : d.members.map Prod.fst = fieldNames := by
  obtain ⟨file, related⟩ := d
  rfl

theorem nodup_fieldNames : fieldNames.Nodup := by decide

/-- The fields of a file are read back among those of its dependency. -/
theorem ofFields?_members {levels : Nat} {file : FileRecord} {related : List Dependency}
    (h : ∀ m ∈ members ⟨file, related⟩, m.2.depth ≤ levels) :
    FileRecord.ofFields? levels (members ⟨file, related⟩) = some file := by
  have hfilePath : requiredText? (members ⟨file, related⟩) "file_path" = some file.filePath.text :=
    requiredText?_of_lookup rfl
  have hactualPath : textOr? (members ⟨file, related⟩) "actual_file_path" "" = some file.actualPath.text :=
    textOr?_of_lookup rfl
  have hfileName : textOr? (members ⟨file, related⟩) "file_name" "" = some file.fileName := textOr?_of_lookup rfl
  have hsha256 : textOr? (members ⟨file, related⟩) "sha256" "" = some file.sha256 := textOr?_of_lookup rfl
  have hecosystem : ecosystemOr? levels (members ⟨file, related⟩) "ecosystem" = some file.ecosystem :=
    ecosystemOr?_of_lookup rfl
  have hpackagePath : optionalText? (members ⟨file, related⟩) "package_path" = some file.packagePath :=
    optionalText?_of_lookup rfl
  have hname : optionalText? (members ⟨file, related⟩) "name" = some file.name := optionalText?_of_lookup rfl
  have hvendor : collectionOr? levels (members ⟨file, related⟩) "vendor" = some file.vendor :=
    collectionOr?_of_lookup rfl (h ("vendor", file.vendor.toJson) (by simp [members]))
  have hproduct : collectionOr? levels (members ⟨file, related⟩) "product" = some file.product :=
    collectionOr?_of_lookup rfl (h ("product", file.product.toJson) (by simp [members]))
  have hversion : collectionOr? levels (members ⟨file, related⟩) "version" = some file.version :=
    collectionOr?_of_lookup rfl (h ("version", file.version.toJson) (by simp [members]))
  have hreferences : referencesOr? levels (members ⟨file, related⟩) "project_references" = some file.references :=
    referencesOr?_of_lookup rfl (h ("project_references", _) (by simp [members]))
  rw [FileRecord.ofFields?, hfilePath, hactualPath, hfileName, hsha256, hecosystem, hpackagePath, hname, hvendor,
    hproduct, hversion, hreferences]
  rfl

/-- What a dependency is read from: its fields, those of its file, and the dependencies that were folded into it. -/
theorem ofJson?_of_fields {left : Nat} {v : Json} {fields : List (String × Json)} {file : FileRecord}
    {items : List Json} {related : List Dependency} (hfields : v.fields? fieldNames = some fields)
    (hfile : FileRecord.ofFields? (left + 1) fields = some file)
    (hlookup : fields.lookup "related_dependencies" = some (.array items))
    (hrelated : items.mapM (ofJson? left) = some related) : ofJson? (left + 2) v = some ⟨file, related⟩ := by
  -- the recursion is opened here and nowhere else
  delta ofJson? at hrelated ⊢
  refine Option.bind_eq_some_iff.2 ⟨fields, hfields, Option.bind_eq_some_iff.2 ⟨file, hfile, ?_⟩⟩
  beta_reduce
  rw [hlookup]
  exact Option.bind_eq_some_iff.2 ⟨related, hrelated, rfl⟩

mutual

/-- **A dependency is read back from its fields**, whatever other fields are among them. -/
theorem ofJson?_record (d : Dependency) {levels : Nat} {extra : List (String × Json)}
    (hextra : ∀ m ∈ extra, m.1 ∉ fieldNames) (h : d.toJson.depth ≤ levels) :
    ofJson? levels (.record (d.members ++ extra)) = some d := by
  match d with
  | ⟨file, related⟩ =>
    obtain ⟨inner, rfl, hmembers⟩ := Json.exists_levels_record h
    have hknown : ∀ m ∈ members ⟨file, related⟩, m.1 ∈ fieldNames := fun m hm =>
      map_fst_members ⟨file, related⟩ ▸ List.mem_map_of_mem hm
    have hdistinct : ((members ⟨file, related⟩).map Prod.fst).Nodup :=
      map_fst_members ⟨file, related⟩ ▸ nodup_fieldNames
    have hfields := Json.fields?_record hknown hdistinct hextra
    obtain ⟨left, rfl, hrelated⟩ := Json.exists_levels_array (hmembers ("related_dependencies", .array (values related))
      (by simp [members]))
    exact ofJson?_of_fields hfields (ofFields?_members hmembers) rfl (mapM_values related hrelated)

/-- Dependencies are read back from their values. -/
theorem mapM_values (ds : List Dependency) {levels : Nat} (h : ∀ v ∈ values ds, v.depth ≤ levels) :
    (values ds).mapM (ofJson? levels) = some ds := by
  match ds with
  | [] => rfl
  | d :: rest =>
    rw [values] at h
    obtain ⟨hd, hrest⟩ := List.forall_mem_cons.1 h
    have hfirst := ofJson?_record d (List.forall_mem_nil _) hd
    rw [List.append_nil] at hfirst
    rw [values, List.mapM_cons, hfirst, mapM_values rest hrest]
    rfl

end

end Dependency

/-! ## What is written can be written -/

section Printable

open Json

theorem printable_record {members : List (String × Json)} (h : ∀ m ∈ members, m.2.Printable) :
    (record members).Printable := by
  refine .object (fun m hm => ?_) fun m hm => ?_
  · obtain ⟨member, -, rfl⟩ := List.mem_map.1 hm
    rfl
  · obtain ⟨member, hmember, rfl⟩ := List.mem_map.1 hm
    exact h member hmember

theorem printable_map {α : Type} {write : α → Json} {l : List α} (h : ∀ x ∈ l, (write x).Printable) :
    (Json.array (l.map write)).Printable := by
  refine .array fun v hv => ?_
  obtain ⟨x, hx, rfl⟩ := List.mem_map.1 hv
  exact h x hx

theorem printable_ofText? (text : Option String) : (ofText? text).Printable := by
  cases text with
  | none => exact .null
  | some content => exact .text content

theorem Evidence.printable_toJson (e : Evidence) : e.toJson.Printable := by
  refine printable_record ?_
  simp only [List.forall_mem_cons]
  exact ⟨.text _, .text _, .text _, .text _, List.forall_mem_nil _⟩

theorem Collection.printable_toJson (c : Collection) : c.toJson.Printable :=
  printable_map fun e _ => e.printable_toJson

mutual

theorem Dependency.printable_members (d : Dependency) : ∀ m ∈ d.members, m.2.Printable := by
  match d with
  | ⟨file, related⟩ =>
    simp only [members, List.forall_mem_cons]
    exact ⟨.text _, .text _, .text _, .text _, .text _, printable_ofText? _, printable_ofText? _,
      file.vendor.printable_toJson, file.product.printable_toJson, file.version.printable_toJson,
      .array (printable_values related), printable_map fun _ _ => .text _, List.forall_mem_nil _⟩

theorem Dependency.printable_values (ds : List Dependency) : ∀ v ∈ values ds, v.Printable := by
  match ds with
  | [] => exact List.forall_mem_nil _
  | d :: rest =>
    rw [values, List.forall_mem_cons]
    exact ⟨printable_record (printable_members d), printable_values rest⟩

end

theorem Resolved.printable_toJson (r : Resolved) : r.toJson.Printable := by
  refine printable_record fun m hm => ?_
  rcases List.mem_append.1 hm with hm | hm
  · exact r.dependency.printable_members m hm
  · have hterms : ∀ terms : List String, (Json.array (terms.map .ofText)).Printable := fun _ =>
      printable_map fun _ _ => .text _
    rcases List.mem_cons.1 hm with rfl | hm
    · exact hterms r.vendorTerms
    · rw [List.mem_singleton.1 hm]
      exact hterms r.productTerms

end Printable

/-! ## Documents -/

namespace Resolved

theorem map_dependency_ofDependencies (a : SearchField) (ds : List Dependency) :
    (ofDependencies a ds).map Resolved.dependency = ds := by
  induction ds generalizing a with
  | nil => rfl
  | cons d rest ih =>
    have hfirst : (ofDependency a d).1.dependency = d := rfl
    show (ofDependency a d).1.dependency :: _ = _
    rw [hfirst, ih]

/-- The terms of a record are passed over. -/
theorem ofJson?_toJson {levels : Nat} (r : Resolved) (h : r.toJson.depth ≤ levels) :
    Dependency.ofJson? levels r.toJson = some r.dependency := by
  obtain ⟨inner, rfl, hmembers⟩ := Json.exists_levels_record h
  refine Dependency.ofJson?_record r.dependency ?_ (Json.depth_record_le fun m hm => ?_)
  · simp only [List.forall_mem_cons]
    exact ⟨by decide, by decide, List.forall_mem_nil _⟩
  · exact hmembers m (List.mem_append_left _ hm)

/-- The document about some dependencies, as a value. -/
def document (ds : List Dependency) : Json := .array ((ofDependencies .new ds).map toJson)

end Resolved

theorem Resolved.printable_document (ds : List Dependency) : (document ds).Printable :=
  printable_map fun r _ => r.printable_toJson

theorem report_eq (ds : List Dependency) : report ds = (Resolved.document ds).render := rfl

/-! ## The main statement -/

/-- **Reports are read back as what they are about**: dependencies that leave nothing to be filled in, nested as deep as
a reader allows. The report may stand in a file as it is, or with an end of line behind it. -/
theorem Dependency.parseAll?_report {ds : List Dependency} (hnormalized : ∀ d ∈ ds, d.normalized = d)
    (hdepth : (Resolved.document ds).depth ≤ nestingLimit) :
    parseAll? (report ds) = some ds ∧ parseAll? (report ds ++ "\n") = some ds := by
  obtain ⟨inner, hlevels, hitems⟩ := Json.exists_levels_array hdepth
  have hinner : nestingLimit - 1 = inner := by rw [hlevels, Nat.add_sub_cancel]
  have hrecords : ((Resolved.ofDependencies .new ds).map Resolved.toJson).mapM (ofJson? (nestingLimit - 1)) =
      some ds := by
    rw [mapM_map_eq_map fun r hr => r.ofJson?_toJson (hinner ▸ hitems _ (List.mem_map_of_mem hr)),
      Resolved.map_dependency_ofDependencies]
  have hfilled : ds.map normalized = ds := by
    rw [List.map_congr_left hnormalized, List.map_id']
  have hread : ∀ blanks : String, (∀ c ∈ blanks.toList, Json.Lexer.isBlank c = true) →
      parseAll? (report ds ++ blanks) = some ds := by
    intro blanks hblanks
    rw [parseAll?, report_eq, Json.parse?_render (Resolved.printable_document ds) hblanks]
    show (((Resolved.ofDependencies .new ds).map Resolved.toJson).mapM (ofJson? (nestingLimit - 1))).bind _ = _
    rw [hrecords]
    exact congrArg some hfilled
  refine ⟨?_, hread "\n" (List.all_eq_true.1 rfl)⟩
  have hplain := hread "" (List.all_eq_true.1 rfl)
  rwa [String.append_empty] at hplain

theorem Dependency.parseAll?_report_nested :
    let gem : Dependency := { ofPath ⟨"vendor/naïve.gemspec"⟩ with
      name := some "a \"quoted\" \\ and 𝄞"
      related := [ofPath ⟨"naïve.rb"⟩] }
    let bundle : Dependency := { ofPath ⟨"Gemfile\n"⟩ with
      ecosystem := .dotNet
      packagePath := some ""
      vendor := .ofList [⟨"Gemfile", "name", "tab\t and \x01", .highest⟩, ⟨"Gemfile", "author", "Ünïcode", .low⟩]
      references := .ofList ["b", "a", "é"]
      related := [gem] }
    (∀ d ∈ [bundle, gem], d.normalized = d) ∧ (Resolved.document [bundle, gem]).depth ≤ nestingLimit ∧
      parseAll? (report [bundle, gem]) = some [bundle, gem] ∧
      parseAll? (report [bundle, gem] ++ "\n") = some [bundle, gem] := by
  intro gem bundle
  have hnormalized : ∀ d ∈ [bundle, gem], d.normalized = d := by
    simp only [List.forall_mem_cons]
    exact ⟨rfl, rfl, List.forall_mem_nil _⟩
  have hdepth : (Resolved.document [bundle, gem]).depth ≤ nestingLimit := by decide +kernel
  exact ⟨hnormalized, hdepth, parseAll?_report hnormalized hdepth⟩

end DependencyEvidence
