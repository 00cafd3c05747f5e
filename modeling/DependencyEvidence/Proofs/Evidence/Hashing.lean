import DependencyEvidence.Evidence.Basic
import Mathlib.Data.Finset.Card
import Mathlib.Data.List.Induction

/-!
# Observations in hash tables

Two observations are the same exactly if they feed a hash the same writes (`Evidence.hashed_eq_iff`). What carries this
is that the writes of a field can be read off the front of any feed, up to the write that closes it
(`Evidence.hashedField_append_inj`): a feed has only one division into fields, however many there are, and no text can
move from one field to the next.

A hash table looks for an observation in one bucket only. `EvidenceTable` is what such a table holds; with every
insertion the placement may be another one, as it is in a table that grows. Since the bucket of what is the same is the
same (`Evidence.same_iff_place_eq`), the table finds an observation exactly if it holds one that is the same
(`EvidenceTable.finds_iff`), and so keeps the first of each kind (`EvidenceTable.map_held_ofInsertions`).
-/

namespace DependencyEvidence

namespace Evidence

/-! ## What a hash is fed -/

/-- Up to the first end of a field, a feed says which characters it consists of. -/
theorem characters_fieldEnd_inj {l k : List Char} {r s : List HashWrite} :
    l.map HashWrite.character ++ .fieldEnd :: r = k.map HashWrite.character ++ .fieldEnd :: s ↔ l = k ∧ r = s := by
  induction l generalizing k with
  | nil => cases k <;> simp
  | cons c l ih =>
    cases k with
    | nil => simp
    | cons d k => simp [ih, and_assoc]

/-- The writes of a field can be read off the front of a feed. -/
theorem hashedField_append_inj {a b : String} {r s : List HashWrite} :
    hashedField a ++ r = hashedField b ++ s ↔ folded a = folded b ∧ r = s := by
  rw [hashedField, hashedField, List.append_assoc, List.append_assoc]
  exact characters_fieldEnd_inj

theorem hashedField_ne_nil (text : String) : hashedField text ≠ [] := by simp [hashedField]

/-- **A feed has one division into fields.** -/
theorem flatMap_hashedField_inj {fields fields' : List String} :
    fields.flatMap hashedField = fields'.flatMap hashedField ↔ fields.map folded = fields'.map folded := by
  induction fields generalizing fields' with
  | nil =>
    cases fields' with
    | nil => simp
    | cons b fields' => simp [hashedField_ne_nil]
  | cons a fields ih =>
    cases fields' with
    | nil => simp [hashedField_ne_nil]
    | cons b fields' =>
      rw [List.flatMap_cons, List.flatMap_cons, hashedField_append_inj, ih, List.map_cons, List.map_cons,
        List.cons.injEq]

theorem hashed_eq (e : Evidence) : e.hashed = [e.source, e.name, e.value].flatMap hashedField := by
  simp [hashed]

theorem hashed_eq_iff (e f : Evidence) : e.hashed = f.hashed ↔ e.identity = f.identity := by
  rw [hashed_eq, hashed_eq, flatMap_hashedField_inj]
  simp [identity]

end Evidence

/-! ## Tables -/

/-- Which bucket a table has for an observation, by what the observation feeds the hash. -/
abbrev Placement := List HashWrite → Nat

/-- **What is the same, and nothing else, shares its bucket in every table.** -/
theorem Evidence.same_iff_place_eq (e f : Evidence) :
    e.same f = true ↔ ∀ place : Placement, place e.hashed = place f.hashed := by
  rw [same_iff, ← hashed_eq_iff]
  constructor
  · intro h place
    rw [h]
  · intro h
    -- a table with one bucket for the feed of `f` and one for all others
    have hplace := h fun feed => if feed = f.hashed then 0 else 1
    by_contra hne
    simp [hne] at hplace

/-- What a hash table holds, oldest first. -/
structure EvidenceTable where
  held : List Evidence
  distinct : (held.map Evidence.identity).Nodup

namespace EvidenceTable

variable {table : EvidenceTable} {place : Placement} {e : Evidence}

/-- What a table holds in the bucket of an observation. -/
def bucket (table : EvidenceTable) (place : Placement) (e : Evidence) : List Evidence :=
  table.held.filter fun f => place f.hashed = place e.hashed

/-- Whether the bucket of an observation has one that is the same. -/
def finds (table : EvidenceTable) (place : Placement) (e : Evidence) : Bool := (table.bucket place e).any (·.same e)

/-- **The bucket shows whether the table holds an observation.** -/
theorem finds_iff : table.finds place e = true ↔ e.identity ∈ table.held.map Evidence.identity := by
  simp only [finds, bucket, List.any_eq_true, List.mem_filter, decide_eq_true_eq, List.mem_map]
  constructor
  · rintro ⟨f, ⟨hf, -⟩, hsame⟩
    exact ⟨f, hf, (Evidence.same_iff f e).1 hsame⟩
  · rintro ⟨f, hf, hid⟩
    -- What is the same feeds the same, so it is in this bucket, wherever that is.
    have hplace : place f.hashed = place e.hashed := congrArg place ((Evidence.hashed_eq_iff f e).2 hid)
    exact ⟨f, ⟨hf, hplace⟩, (Evidence.same_iff f e).2 hid⟩

/-- The table with an observation put into its bucket, unless the bucket has one that is the same. -/
def insert (table : EvidenceTable) (place : Placement) (e : Evidence) : EvidenceTable :=
  if h : table.finds place e then table
  else
    { held := table.held ++ [e]
      distinct := by
        rw [List.map_append, List.map_singleton, ← List.concat_eq_append]
        exact table.distinct.concat fun hm => h (finds_iff.2 hm) }

/-- The table of some insertions, each under a placement of its own. -/
def ofInsertions (steps : List (Placement × Evidence)) : EvidenceTable :=
  steps.foldl (fun table s => table.insert s.1 s.2) ⟨[], List.nodup_nil⟩

theorem ofInsertions_concat (steps : List (Placement × Evidence)) (s : Placement × Evidence) :
    ofInsertions (steps ++ [s]) = (ofInsertions steps).insert s.1 s.2 := List.foldl_concat ..

/-- To a view that tells apart what is not the same, insertion adds what the table does not show yet. -/
theorem map_held_insert {α : Type} [BEq α] [LawfulBEq α] {view : Evidence → α}
    (hview : ∀ e f : Evidence, view e = view f ↔ e.identity = f.identity) (table : EvidenceTable) (place : Placement)
    (e : Evidence) : (table.insert place e).held.map view =
      if view e ∈ table.held.map view then table.held.map view else table.held.map view ++ [view e] := by
  have hfinds : table.finds place e = true ↔ view e ∈ table.held.map view := by
    simp only [finds_iff, List.mem_map, hview]
  unfold insert
  split
  · next h => rw [if_pos (hfinds.1 h)]
  · next h => rw [if_neg fun hm => h (hfinds.2 hm), List.map_append, List.map_singleton]

/-- One more element is kept if it has not come before. -/
theorem eraseDups_concat {α : Type} [BEq α] [LawfulBEq α] (l : List α) (x : α) :
    (l ++ [x]).eraseDups = if x ∈ l then l.eraseDups else l.eraseDups ++ [x] := by
  rw [List.eraseDups_append]
  by_cases h : x ∈ l <;> simp [h, List.removeAll, List.eraseDups_cons]

/-- **A table keeps the first of each kind**, whatever the placements were. -/
theorem map_held_ofInsertions {α : Type} [BEq α] [LawfulBEq α] {view : Evidence → α}
    (hview : ∀ e f : Evidence, view e = view f ↔ e.identity = f.identity) (steps : List (Placement × Evidence)) :
    (ofInsertions steps).held.map view = (steps.map fun s => view s.2).eraseDups := by
  induction steps using List.reverseRecOn with
  | nil => rfl
  | append_singleton steps s ih =>
    rw [ofInsertions_concat, map_held_insert hview, ih, List.map_append, List.map_singleton, eraseDups_concat]
    simp only [List.mem_eraseDups]

theorem length_held_ofInsertions (steps : List (Placement × Evidence)) :
    (ofInsertions steps).held.length = (steps.map (·.2.identity)).toFinset.card := by
  have hview := map_held_ofInsertions (fun _ _ => Iff.rfl) steps
  have hmem : (steps.map (·.2.identity)).toFinset = ((ofInsertions steps).held.map Evidence.identity).toFinset := by
    ext i
    rw [hview, List.mem_toFinset, List.mem_toFinset, List.mem_eraseDups]
  rw [hmem, List.toFinset_card_of_nodup (ofInsertions steps).distinct, List.length_map]

theorem finds_ofInsertions_iff {steps : List (Placement × Evidence)} :
    (ofInsertions steps).finds place e = true ↔ ∃ s ∈ steps, s.2.same e = true := by
  rw [finds_iff, map_held_ofInsertions fun _ _ => Iff.rfl, List.mem_eraseDups, List.mem_map]
  simp only [Evidence.same_iff]

end EvidenceTable

namespace Evidence

/-- Counting is putting into a table. -/
theorem countDistinct_eq (items : List Evidence) (place : Placement) :
    countDistinct items = (EvidenceTable.ofInsertions (items.map (place, ·))).held.length := by
  have hview := EvidenceTable.map_held_ofInsertions hashed_eq_iff (items.map (place, ·))
  rw [List.map_map] at hview
  rw [← List.length_map hashed, hview]
  rfl

/-- **A hash is fed the same exactly for what is the same**, and of the confidence it is fed nothing. The fields can be
told from the feed; what is the same, and nothing else, shares its bucket in every table; a table finds exactly what is
the same as something put into it, in whichever buckets it keeps that, and holds one observation for each identity. -/
theorem hashed_tells_identity :
    (∀ e : Evidence, e.hashed =
      [e.source, e.name, e.value].flatMap fun text => (folded text).map .character ++ [.fieldEnd]) ∧
    (∀ (e f : Evidence) (c d : Confidence),
      { e with confidence := c }.same { f with confidence := d } = true ↔ e.hashed = f.hashed) ∧
    (∀ fields fields' : List String,
      fields.flatMap hashedField = fields'.flatMap hashedField ↔ fields.map folded = fields'.map folded) ∧
    (∀ e f : Evidence, e.same f = true ↔ ∀ place : Placement, place e.hashed = place f.hashed) ∧
    (∀ (steps : List (Placement × Evidence)) (place : Placement) (e : Evidence),
      (EvidenceTable.ofInsertions steps).finds place e = true ↔ ∃ s ∈ steps, s.2.same e = true) ∧
    (∀ steps : List (Placement × Evidence),
      (EvidenceTable.ofInsertions steps).held.length = (steps.map (·.2.identity)).toFinset.card) ∧
    ∀ items : List Evidence, countDistinct items = (items.map identity).toFinset.card := by
  refine ⟨hashed_eq, fun e f c d => ?_, fun _ _ => flatMap_hashedField_inj, same_iff_place_eq,
    fun _ _ _ => EvidenceTable.finds_ofInsertions_iff, EvidenceTable.length_held_ofInsertions, fun items => ?_⟩
  · rw [same_iff, hashed_eq_iff]
    rfl
  · rw [countDistinct_eq items fun _ => 0, EvidenceTable.length_held_ofInsertions, List.map_map]
    rfl

end Evidence

end DependencyEvidence
