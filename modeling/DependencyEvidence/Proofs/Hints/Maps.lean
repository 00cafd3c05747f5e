import DependencyEvidence.Hints.Rule
import DependencyEvidence.Proofs.Evidence.Map

/-!
# Hint rules on maps

What a hint rule does can be told from what a dependency says on each axis (`Dependency.maps`) and from its file name,
without a word about the order in which collections keep their entries. `HintRule.FiresOn` is the condition of a rule
on maps and `HintRule.changeMaps` its effect; `maps_step` shows that a rule does the same on dependencies, and
`maps_apply_rules` that a list of rules does, each rule on the maps that the rules before it have left.
-/

namespace DependencyEvidence

/-- A map for each axis. -/
abbrev AxisMaps := Axis → EvidenceMap

/-- What a dependency says. -/
def Dependency.maps (d : Dependency) : AxisMaps := fun a => (d.evidence a).toMap

/-- Putting its own evidence into a dependency changes nothing. -/
theorem Dependency.withEvidence_eq {d : Dependency} {v p w : Collection} (hv : v = d.vendor) (hp : p = d.product)
    (hw : w = d.version) : { d with vendor := v, product := p, version := w } = d := by
  subst hv hp hw
  cases d
  rfl

theorem Axis.mem_all (a : Axis) : a ∈ Axis.all := by cases a <;> decide

/-! ## One rule -/

namespace HintRule

/-- A rule fires if something that it is given is a key of the map of its axis, or a pattern accepts the file name. -/
def FiresOn (r : HintRule) (fileName : String) (m : AxisMaps) : Prop :=
  (∃ a, ∃ e ∈ r.given.get a, m a e.identity ≠ ⊥) ∨ ∃ p ∈ r.patterns, p.accepts fileName = true

instance (r : HintRule) (fileName : String) (m : AxisMaps) : Decidable (r.FiresOn fileName m) :=
  decidable_of_iff
    ((∃ a ∈ Axis.all, ∃ e ∈ r.given.get a, m a e.identity ≠ ⊥) ∨ ∃ p ∈ r.patterns, p.accepts fileName = true)
    (or_congr_left ⟨fun ⟨a, _, h⟩ => ⟨a, h⟩, fun ⟨a, h⟩ => ⟨a, a.mem_all, h⟩⟩)

/-- A rule joins what it adds to each map, and then erases what it removes. -/
def changeMaps (r : HintRule) (m : AxisMaps) : AxisMaps :=
  fun a => (m a ⊔ .ofItems (r.add.get a)).without (r.remove.get a)

/-- The maps after a rule. -/
def stepMaps (fileName : String) (m : AxisMaps) (r : HintRule) : AxisMaps :=
  if r.FiresOn fileName m then r.changeMaps m else m

variable (r : HintRule) (d : Dependency)

theorem fires_iff : r.fires d = true ↔ r.FiresOn d.fileName d.maps := by
  have hgiven : (Axis.all.any fun a => (r.given.get a).any (d.evidence a).contains) = true ↔
      ∃ a, ∃ e ∈ r.given.get a, d.maps a e.identity ≠ ⊥ := by
    simp only [List.any_eq_true, Collection.contains_iff]
    exact ⟨fun ⟨a, _, h⟩ => ⟨a, h⟩, fun ⟨a, h⟩ => ⟨a, a.mem_all, h⟩⟩
  rw [fires, Bool.or_eq_true, hgiven, List.any_eq_true]
  rfl

/-- Each axis is changed by itself. -/
theorem evidence_applyTo (a : Axis) : (r.applyTo d).evidence a = r.change a (d.evidence a) := by
  cases a <;> rfl

theorem maps_applyTo : (r.applyTo d).maps = r.changeMaps d.maps := by
  funext a
  show ((r.applyTo d).evidence a).toMap = _
  rw [evidence_applyTo, change, Collection.toMap_foldl_remove, Collection.toMap_extend]
  rfl

/-- A rule does the same on a dependency and on its maps. -/
theorem maps_step : (step d r).maps = stepMaps d.fileName d.maps r := by
  unfold step stepMaps
  by_cases h : r.fires d = true
  · rw [if_pos h, if_pos ((r.fires_iff d).1 h), maps_applyTo]
  · rw [if_neg h, if_neg (mt (r.fires_iff d).2 h)]

/-- A rule changes collections only. -/
theorem withEvidence_step (v p w : Collection) :
    { step d r with vendor := v, product := p, version := w } = { d with vendor := v, product := p, version := w } := by
  unfold step
  split <;> rfl

end HintRule

/-! ## Lists of rules -/

variable (rules : List HintRule) (d : Dependency)

theorem withEvidence_foldl_step (v p w : Collection) :
    { rules.foldl HintRule.step d with vendor := v, product := p, version := w } =
      { d with vendor := v, product := p, version := w } := by
  induction rules generalizing d with
  | nil => rfl
  | cons r rest ih => rw [List.foldl_cons, ih, HintRule.withEvidence_step]

theorem fileName_foldl_step : (rules.foldl HintRule.step d).fileName = d.fileName :=
  congrArg (·.fileName) (withEvidence_foldl_step rules d .empty .empty .empty)

theorem maps_foldl_step : (rules.foldl HintRule.step d).maps = rules.foldl (HintRule.stepMaps d.fileName) d.maps := by
  induction rules generalizing d with
  | nil => rfl
  | cons r rest ih =>
    have hname : (HintRule.step d r).fileName = d.fileName := fileName_foldl_step [r] d
    rw [List.foldl_cons, List.foldl_cons, ih, hname, HintRule.maps_step]

/-- Without duplications, a rule set is its list of rules. -/
theorem apply_rules : (RuleSet.mk rules []).apply d = rules.foldl HintRule.step d := by
  have hnone : ∀ c : Collection, Duplication.applyTo [] c = c := fun c => by
    have hcopies : c.entries.flatMap (Duplication.copies []) = [] := List.flatMap_eq_nil_iff.2 fun _ _ => rfl
    rw [Duplication.applyTo, hcopies]
    rfl
  exact Dependency.withEvidence_eq (hnone _) rfl rfl

/-- What a rule removes is absent afterwards, even if the rule has added it. -/
theorem HintRule.changeMaps_of_removed {r : HintRule} (m : AxisMaps) {a : Axis} {e : Evidence}
    (he : e ∈ r.remove.get a) : r.changeMaps m a e.identity = ⊥ :=
  if_pos (List.mem_map_of_mem he)

/-- **Rules on collections are rules on maps.** After a list of rules, the maps of the three axes are what the rules
make of the first maps one after another. Every rule decides by the maps that it finds, before it changes any; what it
removes is absent afterwards; and nothing but the collections is changed. -/
theorem maps_apply_rules :
    ((RuleSet.mk rules []).apply d).maps = rules.foldl (HintRule.stepMaps d.fileName) d.maps ∧
    (∀ r : HintRule, r.fires ((RuleSet.mk rules []).apply d) = true ↔
      r.FiresOn d.fileName (rules.foldl (HintRule.stepMaps d.fileName) d.maps)) ∧
    (∀ r : HintRule, r.FiresOn d.fileName (rules.foldl (HintRule.stepMaps d.fileName) d.maps) →
      ∀ a, ∀ e ∈ r.remove.get a, ((RuleSet.mk (rules ++ [r]) []).apply d).maps a e.identity = ⊥) ∧
    { (RuleSet.mk rules []).apply d with vendor := d.vendor, product := d.product, version := d.version } = d := by
  have hmaps : ∀ rules : List HintRule,
      ((RuleSet.mk rules []).apply d).maps = rules.foldl (HintRule.stepMaps d.fileName) d.maps := fun rules => by
    rw [apply_rules, maps_foldl_step]
  refine ⟨hmaps rules, fun r => ?_, fun r hr a e he => ?_, ?_⟩
  · rw [r.fires_iff, hmaps, apply_rules, fileName_foldl_step]
  · rw [hmaps, List.foldl_append, List.foldl_cons, List.foldl_nil, HintRule.stepMaps, if_pos hr]
    exact HintRule.changeMaps_of_removed _ he
  · rw [apply_rules, withEvidence_foldl_step]
    exact Dependency.withEvidence_eq rfl rfl rfl

end DependencyEvidence
