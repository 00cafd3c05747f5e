import DependencyEvidence.Dependency.Json
import DependencyEvidence.Proofs.Evidence.Map
import Mathlib.Data.Finmap

/-!
# Collections as finite maps

A collection is a finite map from identities to confidences (`Collection.toFinmap`). Whatever is done with it, one call
after another (`CollectionCall`), the answers are those of the map, and the collection goes on standing for the map:
`perform_eq_meaning` says so of one call, and `runAll_map` carries it to all histories.

What a map does not show is which entries stand for it. A collection that was made from a list (`Collection.ofList`)
has for each identity the earliest of its surest observations (`mem_entries_ofList`), in the order in which the
identities came first (`map_identity_ofList`). Written and read again, a collection has the entries that it had
(`ofJson?_toJson`).
-/

namespace DependencyEvidence

/-! ## Finite maps -/

/-- A finite map from identities to confidences. -/
abbrev ConfidenceMap := Finmap fun _ : Identity => Confidence

namespace ConfidenceMap

/-- Puts an observation into a map, where the greater of two confidences stays. -/
def insertMax (m : ConfidenceMap) (e : Evidence) : ConfidenceMap :=
  m.insert e.identity (match m.lookup e.identity with
    | some c => max c e.confidence
    | none => e.confidence)

/-- What a finite map says of each identity. -/
def toMap (m : ConfidenceMap) : EvidenceMap := fun i => m.lookup i

theorem toMap_injective : Function.Injective toMap := fun _ _ h => Finmap.ext_lookup (congrFun h)

theorem toMap_insertMax (m : ConfidenceMap) (e : Evidence) : (m.insertMax e).toMap = m.toMap ⊔ e.toMap := by
  funext i
  rw [Pi.sup_apply, toMap, toMap, insertMax, Evidence.toMap]
  by_cases hi : i = e.identity
  · subst hi
    rw [Finmap.lookup_insert, if_pos rfl]
    cases m.lookup e.identity with
    | none => rfl
    | some c => exact WithBot.coe_sup c e.confidence
  · rw [Finmap.lookup_insert_of_ne m hi, if_neg hi]
    exact (sup_bot_eq _).symm

theorem toMap_erase (m : ConfidenceMap) (e : Evidence) : toMap (m.erase e.identity) = m.toMap.without [e] := by
  funext i
  rw [EvidenceMap.without]
  by_cases hi : i = e.identity
  · rw [toMap, hi, Finmap.lookup_erase, if_pos (by simp)]
    rfl
  · rw [toMap, Finmap.lookup_erase_ne hi, if_neg (by simpa using hi)]
    rfl

theorem mem_iff {m : ConfidenceMap} {i : Identity} : i ∈ m ↔ m.toMap i ≠ ⊥ := by
  rw [← Finmap.lookup_isSome, Option.isSome_iff_ne_none]
  rfl

end ConfidenceMap

namespace Collection

/-- The finite map that a collection stands for. -/
def toFinmap (c : Collection) : ConfidenceMap where
  entries := (c.entries.map fun e => (⟨e.identity, e.confidence⟩ : Sigma fun _ : Identity => Confidence) : List _)
  nodupKeys := by
    rw [Multiset.coe_nodupKeys, List.NodupKeys, List.keys, List.map_map]
    exact c.distinct

theorem toMap_toFinmap (c : Collection) : c.toFinmap.toMap = c.toMap := by
  suffices h : ∀ (l : List Evidence) (i : Identity),
      (l.map fun e => (⟨e.identity, e.confidence⟩ : Sigma fun _ : Identity => Confidence)).dlookup i =
        (l.find? (·.identity = i)).map (·.confidence) from funext (h c.entries)
  intro l i
  induction l with
  | nil => rfl
  | cons e rest ih =>
    rw [List.map_cons]
    by_cases hi : e.identity = i
    · subst hi
      simp
    · rw [List.dlookup_cons_ne _ _ (Ne.symm hi), ih, List.find?_cons_of_neg (by simpa using hi)]

theorem toFinmap_empty : empty.toFinmap = ∅ := rfl

theorem toFinmap_add (c : Collection) (e : Evidence) : (c.add e).toFinmap = c.toFinmap.insertMax e :=
  ConfidenceMap.toMap_injective (by
    rw [ConfidenceMap.toMap_insertMax, toMap_toFinmap, toMap_toFinmap, toMap_add])

theorem toFinmap_extend (c : Collection) (items : List Evidence) :
    (c.extend items).toFinmap = items.foldl ConfidenceMap.insertMax c.toFinmap := by
  induction items generalizing c with
  | nil => rfl
  | cons e rest ih =>
    rw [List.foldl_cons, ← toFinmap_add]
    exact ih (c.add e)

theorem toFinmap_remove (c : Collection) (e : Evidence) : (c.remove e).2.toFinmap = c.toFinmap.erase e.identity :=
  ConfidenceMap.toMap_injective (by
    rw [ConfidenceMap.toMap_erase, toMap_toFinmap, toMap_toFinmap, toMap_remove])

theorem contains_eq_mem (c : Collection) (e : Evidence) : c.contains e = decide (e.identity ∈ c.toFinmap) := by
  rw [Bool.eq_iff_iff, contains_iff, decide_eq_true_iff, ConfidenceMap.mem_iff, toMap_toFinmap]

/-- Removing tells whether there was something to remove. -/
theorem remove_fst (c : Collection) (e : Evidence) : (c.remove e).1 = c.contains e := by
  unfold remove contains
  cases h : c.entries.findIdx? (·.same e) with
  | none => simpa using List.findIdx?_eq_none_iff.1 h
  | some k =>
    obtain ⟨hk, hsame, -⟩ := List.findIdx?_eq_some_iff_getElem.1 h
    exact (List.any_eq_true.2 ⟨_, List.getElem_mem hk, hsame⟩).symm

theorem size_eq_card (c : Collection) : c.size = c.toFinmap.keys.card := by
  show c.entries.length = (Multiset.map _ (Multiset.ofList _)).card
  simp

end Collection

/-! ## Histories of calls -/

/-- What can be done with a collection. -/
inductive CollectionCall where
  | new
  /-- Reads an array with anything in it, where so many levels may be nested in the array. -/
  | read (levels : Nat) (items : List Json)
  | add (e : Evidence)
  | extend (items : List Evidence)
  | remove (e : Evidence)
  | contains (e : Evidence)
  | size

/-- What a call tells. -/
inductive CallAnswer where
  | nothing
  | truth (b : Bool)
  | number (n : Nat)
deriving DecidableEq

namespace CollectionCall

/-- The call on a collection. An array that cannot be read leaves the collection as it is. -/
def perform (c : Collection) : CollectionCall → Collection × CallAnswer
  | new => (.empty, .nothing)
  | read levels items =>
    match Collection.ofJson? (levels + 1) (.array items) with
    | some d => (d, .truth true)
    | none => (c, .truth false)
  | add e => (c.add e, .nothing)
  | extend items => (c.extend items, .nothing)
  | remove e => ((c.remove e).2, .truth (c.remove e).1)
  | contains e => (c, .truth (c.contains e))
  | size => (c, .number c.size)

/-- The call on a finite map. -/
def meaning (m : ConfidenceMap) : CollectionCall → ConfidenceMap × CallAnswer
  | new => (∅, .nothing)
  | read levels items =>
    match items.mapM (Evidence.ofJson? levels) with
    | some found => (found.foldl ConfidenceMap.insertMax ∅, .truth true)
    | none => (m, .truth false)
  | add e => (m.insertMax e, .nothing)
  | extend items => (items.foldl ConfidenceMap.insertMax m, .nothing)
  | remove e => (m.erase e.identity, .truth (e.identity ∈ m))
  | contains e => (m, .truth (e.identity ∈ m))
  | size => (m, .number m.keys.card)

/-- **A call on a collection is the call on its map.** -/
theorem perform_eq_meaning (c : Collection) (call : CollectionCall) :
    ((perform c call).1.toFinmap, (perform c call).2) = meaning c.toFinmap call := by
  cases call with
  | new => rfl
  | read levels items =>
    rw [perform, meaning, Collection.ofJson?]
    cases items.mapM (Evidence.ofJson? levels) with
    | none => rfl
    | some found => simp [Collection.ofList, Collection.toFinmap_extend, Collection.toFinmap_empty]
  | add e => rw [perform, meaning, Collection.toFinmap_add]
  | extend items => rw [perform, meaning, Collection.toFinmap_extend]
  | remove e => rw [perform, meaning, Collection.toFinmap_remove, Collection.remove_fst, Collection.contains_eq_mem]
  | contains e => rw [perform, meaning, Collection.contains_eq_mem]
  | size => rw [perform, meaning, Collection.size_eq_card]

/-- Makes calls one after another. Gives what they leave, and their answers. -/
def runAll {σ : Type} (call : σ → CollectionCall → σ × CallAnswer) : σ → List CollectionCall → σ × List CallAnswer
  | s, [] => (s, [])
  | s, c :: rest => ((runAll call (call s c).1 rest).1, (call s c).2 :: (runAll call (call s c).1 rest).2)

/-- What holds of single calls holds of histories. -/
theorem runAll_map {σ τ : Type} {f : σ → CollectionCall → σ × CallAnswer} {g : τ → CollectionCall → τ × CallAnswer}
    (view : σ → τ) (h : ∀ s c, (view (f s c).1, (f s c).2) = g (view s) c) (s : σ) (calls : List CollectionCall) :
    (view (runAll f s calls).1, (runAll f s calls).2) = runAll g (view s) calls := by
  induction calls generalizing s with
  | nil => rfl
  | cons c rest ih =>
    have hone := h s c
    have hrest := ih (f s c).1
    rw [runAll, runAll, ← hone, ← hrest]

/-- The collection that some calls leave, the first of them on an empty one. -/
def reached (calls : List CollectionCall) : Collection := (runAll perform .empty calls).1

end CollectionCall

/-! ## The entries -/

section Entries

variable {e x : Evidence} {l : List Evidence}

/-- What is in a list after an observation has been put into it. -/
theorem mem_addTo (hl : (l.map Evidence.identity).Nodup) (h : e ∈ addTo x l) :
    (e ∈ l ∧ (x.identity = e.identity → x.confidence ≤ e.confidence)) ∨
      (e = x ∧ ∀ z ∈ l, z.identity = x.identity → z.confidence < x.confidence) := by
  induction l with
  | nil => exact .inr ⟨List.mem_singleton.1 h, fun z hz => absurd hz List.not_mem_nil⟩
  | cons y rest ih =>
    rw [List.map_cons, List.nodup_cons] at hl
    have hother : ∀ z ∈ rest, z.identity ≠ y.identity := fun z hz he => hl.1 (he ▸ List.mem_map_of_mem hz)
    rw [addTo] at h
    by_cases hy : y.same x = true
    · have hyx : y.identity = x.identity := (Evidence.same_iff y x).1 hy
      rw [if_pos hy, List.mem_cons] at h
      rcases h with h | h
      · by_cases hlt : y.confidence < x.confidence
        · rw [if_pos hlt] at h
          refine .inr ⟨h, fun z hz hzx => ?_⟩
          rcases List.mem_cons.1 hz with rfl | hz
          · exact hlt
          · exact absurd (hzx.trans hyx.symm) (hother z hz)
        · rw [if_neg hlt] at h
          exact .inl ⟨h ▸ List.mem_cons_self, fun _ => h ▸ not_lt.1 hlt⟩
      · exact .inl ⟨List.mem_cons_of_mem _ h, fun he => absurd (he.symm.trans hyx.symm) (hother e h)⟩
    · have hyx : y.identity ≠ x.identity := fun he => hy ((Evidence.same_iff y x).2 he)
      rw [if_neg hy, List.mem_cons] at h
      rcases h with rfl | h
      · exact .inl ⟨List.mem_cons_self, fun he => absurd he.symm hyx⟩
      · rcases ih hl.2 h with ⟨hmem, hle⟩ | ⟨rfl, hlt⟩
        · exact .inl ⟨List.mem_cons_of_mem _ hmem, hle⟩
        · exact .inr ⟨rfl, List.forall_mem_cons.2 ⟨fun he => absurd he hyx, hlt⟩⟩

theorem confidence_le_ofItems (h : e ∈ l) : (e.confidence : WithBot Confidence) ≤ EvidenceMap.ofItems l e.identity := by
  induction l with
  | nil => exact absurd h List.not_mem_nil
  | cons y rest ih =>
    rw [EvidenceMap.ofItems_cons, Pi.sup_apply]
    rcases List.mem_cons.1 h with rfl | h
    · exact le_sup_of_le_left (by simp [Evidence.toMap])
    · exact le_sup_of_le_right (ih h)

end Entries

/-! ## Lists written and read again -/

/-- Reading what was written item by item gives what is read from the single items. -/
theorem mapM_map_eq_map {α β γ : Type} {write : α → β} {read : β → Option γ} {view : α → γ} {l : List α}
    (h : ∀ x ∈ l, read (write x) = some (view x)) : (l.map write).mapM read = some (l.map view) := by
  induction l with
  | nil => rfl
  | cons x rest ih =>
    obtain ⟨hx, hrest⟩ := List.forall_mem_cons.1 h
    rw [List.map_cons, List.mapM_cons, hx, ih hrest]
    rfl

/-- Reading undoes writing item by item. -/
theorem mapM_map_eq_some {α β : Type} {write : α → β} {read : β → Option α} {l : List α}
    (h : ∀ x ∈ l, read (write x) = some x) : (l.map write).mapM read = some l := by
  have hread := @mapM_map_eq_map α β α write read id l h
  rwa [List.map_id] at hread

namespace Collection

theorem ofList_concat (items : List Evidence) (x : Evidence) : ofList (items ++ [x]) = (ofList items).add x :=
  extend_concat empty items x

/-- The identities are in the order in which they came first. -/
theorem map_identity_ofList (items : List Evidence) :
    (ofList items).entries.map Evidence.identity = (items.map Evidence.identity).eraseDups := by
  rw [ofList, map_identity_extend]
  simp [empty]

/-- For each identity the earliest of its surest observations is kept. -/
theorem mem_entries_ofList {items : List Evidence} {e : Evidence} (h : e ∈ (ofList items).entries) :
    ∃ before after, items = before ++ e :: after ∧
      (∀ x ∈ before, x.same e = true → x.confidence < e.confidence) ∧
      (∀ x ∈ after, x.same e = true → x.confidence ≤ e.confidence) := by
  induction items using List.reverseRecOn generalizing e with
  | nil => exact absurd h List.not_mem_nil
  | append_singleton items x ih =>
    rw [ofList_concat] at h
    rcases mem_addTo (ofList items).distinct h with ⟨hmem, hle⟩ | ⟨rfl, hlt⟩
    · obtain ⟨before, after, rfl, hbefore, hafter⟩ := ih hmem
      refine ⟨before, after ++ [x], by simp, hbefore, fun y hy hsame => ?_⟩
      rcases List.mem_append.1 hy with hy | hy
      · exact hafter y hy hsame
      · obtain rfl := List.mem_singleton.1 hy
        exact hle ((Evidence.same_iff y e).1 hsame)
    · refine ⟨items, [], rfl, fun y hy hsame => ?_, fun y hy => absurd hy List.not_mem_nil⟩
      -- the entry with this identity is as sure as any observation before, and less sure than the new one
      have hye : y.identity = e.identity := (Evidence.same_iff y e).1 hsame
      have hmap : (ofList items).toMap = EvidenceMap.ofItems items := by
        rw [ofList, toMap_extend]
        exact bot_sup_eq _
      have hle : (y.confidence : WithBot Confidence) ≤ (ofList items).confidence? e.identity := by
        rw [← hye]
        exact (confidence_le_ofItems hy).trans_eq (congrFun hmap.symm y.identity)
      rw [confidence?] at hle
      cases hfind : (ofList items).entries.find? (·.identity = e.identity) with
      | none =>
        rw [hfind] at hle
        exact absurd (le_bot_iff.1 hle) WithBot.coe_ne_bot
      | some z =>
        rw [hfind] at hle
        have hz : z.identity = e.identity := by simpa using List.find?_some hfind
        exact (WithBot.coe_le_coe.1 hle).trans_lt (hlt z (List.mem_of_find?_eq_some hfind) hz)

/-! ## Written and read again -/

theorem addTo_of_not_mem {e : Evidence} {l : List Evidence} (h : e.identity ∉ l.map Evidence.identity) :
    addTo e l = l ++ [e] := by
  induction l with
  | nil => rfl
  | cons x rest ih =>
    rw [List.map_cons, List.mem_cons, not_or] at h
    have hx : ¬ x.same e = true := fun hs => h.1 ((Evidence.same_iff x e).1 hs).symm
    rw [addTo, if_neg hx, ih h.2, List.cons_append]

/-- Observations of new identities go to the end. -/
theorem entries_extend (c : Collection) (items : List Evidence)
    (h : ((c.entries ++ items).map Evidence.identity).Nodup) : (c.extend items).entries = c.entries ++ items := by
  induction items generalizing c with
  | nil => simp [extend]
  | cons e rest ih =>
    have hnew : e.identity ∉ c.entries.map Evidence.identity := by
      rw [List.map_append, List.map_cons, List.nodup_append] at h
      exact fun hm => h.2.2 _ hm _ List.mem_cons_self rfl
    have hadd : (c.add e).entries = c.entries ++ [e] := addTo_of_not_mem hnew
    have hrest := ih (c.add e) (by rw [hadd, List.append_assoc]; exact h)
    rw [hadd, List.append_assoc] at hrest
    exact hrest

theorem ofList_entries (c : Collection) : ofList c.entries = c := by
  obtain ⟨entries, distinct⟩ := c
  have h : (ofList entries).entries = entries := entries_extend empty entries distinct
  generalize ofList entries = d at h
  subst h
  rfl

theorem named?_name (c : Confidence) : Confidence.named? c.name = some c := by cases c <;> decide

theorem ofJson?_toJson_evidence (levels : Nat) (e : Evidence) : Evidence.ofJson? (levels + 1) e.toJson = some e := by
  have hfields : e.toJson.fields? Evidence.fieldNames =
      some [("source", .ofText e.source), ("name", .ofText e.name), ("value", .ofText e.value),
        ("confidence", .ofText e.confidence.name)] := by
    simp [Evidence.toJson, Json.record, Json.fields?, Evidence.fieldNames]
  simp [Evidence.ofJson?, hfields, requiredText?, Confidence.ofJson?, Json.tag?, Json.ofText, Json.text?, named?_name,
    List.lookup_cons]

theorem ofJson?_toJson (levels : Nat) (c : Collection) : ofJson? (levels + 2) c.toJson = some c := by
  have hentries : (c.entries.map Evidence.toJson).mapM (Evidence.ofJson? (levels + 1)) = some c.entries :=
    mapM_map_eq_some fun e _ => ofJson?_toJson_evidence levels e
  rw [toJson, ofJson?, hentries, Option.map_some, ofList_entries]

end Collection

/-! ## The main statement -/

open CollectionCall in
/-- **Collections are finite maps.** After any calls a collection stands for the map that the same calls make, and all
answers are those of the map. No two of its entries are the same, and written and read again it is what it was. Made by
adding the observations of a list, it holds the identities in the order in which they came first, and for each of them
the earliest of its surest observations. -/
theorem runAll_perform (calls : List CollectionCall) :
    ((reached calls).toFinmap, (runAll perform .empty calls).2) = runAll meaning ∅ calls ∧
    (reached calls).entries.Pairwise (fun e f => e.same f = false) ∧
    (∀ levels, Collection.ofJson? (levels + 2) (reached calls).toJson = some (reached calls)) ∧
    ∀ items : List Evidence,
      (Collection.ofList items).entries.map Evidence.identity = (items.map Evidence.identity).eraseDups ∧
      ∀ e ∈ (Collection.ofList items).entries, ∃ before after, items = before ++ e :: after ∧
        (∀ x ∈ before, x.same e = true → x.confidence < e.confidence) ∧
        (∀ x ∈ after, x.same e = true → x.confidence ≤ e.confidence) := by
  refine ⟨runAll_map Collection.toFinmap perform_eq_meaning .empty calls, ?_,
    fun levels => Collection.ofJson?_toJson _ _,
    fun items => ⟨Collection.map_identity_ofList items, fun e he => Collection.mem_entries_ofList he⟩⟩
  refine (List.pairwise_map.1 (reached calls).distinct).imp fun hne => ?_
  exact Bool.eq_false_iff.2 fun hsame => hne ((Evidence.same_iff _ _).1 hsame)

end DependencyEvidence
