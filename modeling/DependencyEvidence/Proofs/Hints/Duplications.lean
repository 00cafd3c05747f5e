import DependencyEvidence.Proofs.Hints.Maps
import Mathlib.Data.List.ProdSigma

/-!
# Duplications of vendors

Duplications look at all vendors that the rules have left before any copy is added. So the copies are told by the pairs
of a vendor and a duplication that is about its value (`Duplication.pairs`), in the order of a double loop
(`flatMap_copies`), and none of them is looked at again.

Adding them joins maps (`Collection.toMap_extend`), keeps every identity at its place, and puts the new ones behind in
the order in which they were made first (`Collection.map_identity_extend`).
-/

namespace DependencyEvidence

/-! ## Copies by pairs -/

namespace Duplication

/-- The evidence that a duplication makes of a vendor that it is about. -/
def copyOf (r : Duplication) (e : Evidence) : Evidence :=
  { source := e.source ++ " (hint)", name := e.name, value := r.duplicate, confidence := e.confidence }

/-- The vendors with the duplications that are about their values, one vendor after another. -/
def pairs (rules : List Duplication) (vendors : List Evidence) : List (Evidence × Duplication) :=
  (vendors ×ˢ rules).filter fun p => equalIgnoringCase p.2.value p.1.value

/-- The copies of all pairs. -/
def made (rules : List Duplication) (vendors : List Evidence) : List Evidence :=
  (pairs rules vendors).map fun p => p.2.copyOf p.1

theorem mem_pairs {rules : List Duplication} {vendors : List Evidence} {e : Evidence} {r : Duplication} :
    (e, r) ∈ pairs rules vendors ↔ e ∈ vendors ∧ r ∈ rules ∧ equalIgnoringCase r.value e.value = true := by
  rw [pairs, List.mem_filter, List.mem_product, and_assoc]

/-- Looking for copies of one vendor after another finds the copies of all pairs. -/
theorem flatMap_copies (rules : List Duplication) (vendors : List Evidence) :
    vendors.flatMap (copies rules) = made rules vendors := by
  induction vendors with
  | nil => rfl
  | cons e rest ih =>
    have hone : copies rules e =
        ((rules.map (Prod.mk e)).filter fun p => equalIgnoringCase p.2.value p.1.value).map fun p => p.2.copyOf p.1 := by
      rw [List.filter_map, List.map_map]
      rfl
    rw [List.flatMap_cons, ih, hone, made, made, pairs, pairs, List.product_cons, List.filter_append, List.map_append]

end Duplication

/-! ## The main statement -/

namespace RuleSet

/-- The dependency that the hint rules leave to the duplications. -/
def ruled (s : RuleSet) (d : Dependency) : Dependency := (RuleSet.mk s.rules []).apply d

/-- The copies that are made of the vendors that the hint rules leave. -/
def made (s : RuleSet) (d : Dependency) : List Evidence := Duplication.made s.duplications (s.ruled d).vendor.entries

/-- The vendors after all rules are those after the hint rules with all copies behind, and nothing else is changed. -/
theorem apply_eq_extend (s : RuleSet) (d : Dependency) :
    s.apply d = { s.ruled d with vendor := (s.ruled d).vendor.extend (s.made d) } := by
  rw [made, ruled, apply_rules, ← Duplication.flatMap_copies]
  rfl

/-- **Duplications add the copies of all pairs, and nothing else.** As a map, the vendors are joined with the copies of
all vendors that the rules have left. So none of these is lost or less sure than before; whatever is new is a copy of
one of them, and not of another copy; they keep their places, and the new identities follow in the order in which they
were made first. -/
theorem vendor_apply (s : RuleSet) (d : Dependency) :
    (s.apply d).vendor.toMap = (s.ruled d).vendor.toMap ⊔ .ofItems (s.made d) ∧
    (s.ruled d).vendor.toMap ≤ (s.apply d).vendor.toMap ∧
    (∀ x ∈ (s.apply d).vendor.entries, x.identity ∉ (s.ruled d).vendor.entries.map Evidence.identity →
      ∃ e ∈ (s.ruled d).vendor.entries, ∃ r ∈ s.duplications, equalIgnoringCase r.value e.value = true ∧
        x.identity = (r.copyOf e).identity) ∧
    (s.apply d).vendor.entries.map Evidence.identity = (s.ruled d).vendor.entries.map Evidence.identity ++
      (((s.made d).map Evidence.identity).filter (· ∉ (s.ruled d).vendor.entries.map Evidence.identity)).eraseDups ∧
    { s.apply d with vendor := (s.ruled d).vendor } = s.ruled d := by
  have happly := s.apply_eq_extend d
  have hmap : (s.apply d).vendor.toMap = (s.ruled d).vendor.toMap ⊔ .ofItems (s.made d) := by
    rw [happly, Collection.toMap_extend]
  have hplaces : (s.apply d).vendor.entries.map Evidence.identity = (s.ruled d).vendor.entries.map Evidence.identity ++
      (((s.made d).map Evidence.identity).filter (· ∉ (s.ruled d).vendor.entries.map Evidence.identity)).eraseDups := by
    rw [happly, Collection.map_identity_extend]
  refine ⟨hmap, hmap ▸ le_sup_left, fun x hx hnew => ?_, hplaces, by rw [happly]; rfl⟩
  have hmade : x.identity ∈ (s.made d).map Evidence.identity := by
    have hmem := hplaces ▸ List.mem_map_of_mem hx
    rcases List.mem_append.1 hmem with hold | hmem
    · exact absurd hold hnew
    · exact (List.mem_filter.1 (List.mem_eraseDups.1 hmem)).1
  obtain ⟨y, hy, hyx⟩ := List.mem_map.1 hmade
  obtain ⟨⟨e, r⟩, hp, rfl⟩ := List.mem_map.1 hy
  obtain ⟨he, hr, hvalue⟩ := Duplication.mem_pairs.1 hp
  exact ⟨e, he, r, hr, hvalue, hyx.symm⟩

end RuleSet

end DependencyEvidence
