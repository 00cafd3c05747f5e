import DependencyEvidence.Hints.Builtin
import DependencyEvidence.Hints.Document
import DependencyEvidence.Proofs.Evidence.FiniteMap
import DependencyEvidence.Proofs.Hints.Maps
import DependencyEvidence.Proofs.Merge.Tree

/-!
# Rules that leave nothing to do

A rule set is done with a dependency (`RuleSet.DoneWith`) if what its rules would add and copy is there, and what they
would remove is not. Applying it then changes nothing (`apply_of_doneWith`).

Not every rule set is done with what it leaves: a rule may add what an earlier one waits for. A stable rule set
(`RuleSet.Stable`) keeps what it adds and copies apart from what it waits for, and it is done with what it leaves
(`Stable.doneWith_apply`). The built-in rules are stable (`exists_stable_builtin`).

Merging keeps this: rules that are done with two dependencies are done with the one that absorbs the other
(`DoneWith.absorb`).
-/

namespace DependencyEvidence

open EvidenceMap (ofItems ofItems_cons ofItems_eq_bot_iff)

/-! ## What collections hold -/

theorem EvidenceMap.ofItems_le_iff {items : List Evidence} {m : EvidenceMap} :
    ofItems items ≤ m ↔ ∀ e ∈ items, e.toMap ≤ m := by
  induction items with
  | nil => simp
  | cons e rest ih => simp [ih]

theorem Evidence.toMap_le_iff {e : Evidence} {m : EvidenceMap} :
    e.toMap ≤ m ↔ (e.confidence : WithBot Confidence) ≤ m e.identity := by
  constructor
  · intro h
    simpa [Evidence.toMap] using h e.identity
  · intro h i
    by_cases hi : i = e.identity
    · simpa [Evidence.toMap, hi] using h
    · simp [Evidence.toMap, hi]

/-- An observation that is there, as sure as that or surer, is not put into a list. -/
theorem addTo_eq_self {e : Evidence} {l : List Evidence} (hl : (l.map Evidence.identity).Nodup)
    (h : e.toMap ≤ ofItems l) : addTo e l = l := by
  induction l with
  | nil => exact absurd (Evidence.toMap_le_iff.1 h) (by simp)
  | cons x rest ih =>
    rw [List.map_cons, List.nodup_cons] at hl
    rw [Evidence.toMap_le_iff, ofItems_cons, Pi.sup_apply] at h
    rw [addTo]
    by_cases hx : x.same e = true
    · have hxe : x.identity = e.identity := (Evidence.same_iff x e).1 hx
      have hrest : ofItems rest e.identity = ⊥ := ofItems_eq_bot_iff.2 (hxe ▸ hl.1)
      have hle : e.confidence ≤ x.confidence := by
        rw [hrest, sup_bot_eq, Evidence.toMap, if_pos hxe.symm] at h
        exact WithBot.coe_le_coe.1 h
      rw [if_pos hx, if_neg (not_lt.2 hle)]
    · have hxe : x.toMap e.identity = ⊥ := if_neg fun he => hx ((Evidence.same_iff x e).2 he.symm)
      rw [hxe, bot_sup_eq] at h
      rw [if_neg hx, ih hl.2 (Evidence.toMap_le_iff.2 h)]

namespace Collection

variable {c : Collection} {items : List Evidence}

theorem add_eq_self {e : Evidence} (h : e.toMap ≤ c.toMap) : c.add e = c := by
  have hentries : addTo e c.entries = c.entries := addTo_eq_self c.distinct (c.toMap_eq_ofItems ▸ h)
  obtain ⟨entries, distinct⟩ := c
  simp only [add] at hentries ⊢
  simp only [hentries]

/-- Observations that are there do not change a collection. -/
theorem extend_eq_self (h : ofItems items ≤ c.toMap) : c.extend items = c := by
  induction items with
  | nil => rfl
  | cons e rest ih =>
    obtain ⟨he, hrest⟩ := sup_le_iff.1 h
    show (c.add e).extend rest = c
    rw [add_eq_self he, ih hrest]

/-- The entries of an extended collection were there, or are observations that it was extended by. -/
theorem mem_extend {e : Evidence} (h : e ∈ (c.extend items).entries) : e ∈ c.entries ∨ e ∈ items := by
  induction items generalizing c with
  | nil => exact .inl h
  | cons x rest ih =>
    rcases ih (c := c.add x) h with h | h
    · rcases mem_addTo c.distinct h with ⟨h, -⟩ | ⟨rfl, -⟩
      · exact .inl h
      · exact .inr List.mem_cons_self
    · exact .inr (List.mem_cons_of_mem _ h)

/-- What is absent cannot be removed. -/
theorem foldl_remove_eq_self (h : ∀ e ∈ items, c.toMap e.identity = ⊥) :
    items.foldl (fun c e => (c.remove e).2) c = c := by
  induction items with
  | nil => rfl
  | cons e rest ih =>
    obtain ⟨he, hrest⟩ := List.forall_mem_cons.1 h
    have hnone : c.entries.findIdx? (·.same e) = none := by
      refine List.findIdx?_eq_none_iff.2 fun x hx => Bool.eq_false_iff.2 fun hs => ?_
      exact toMap_eq_bot_iff.1 he (List.mem_map.2 ⟨x, hx, (Evidence.same_iff x e).1 hs⟩)
    have hremove : (c.remove e).2 = c := by
      rw [remove, hnone]
    rw [List.foldl_cons, hremove, ih hrest]

end Collection

/-! ## Nothing left to do -/

/-- Whether some rules have left nothing to do: what they would add is there, and what they would remove is not. -/
def DoneOn (rules : List HintRule) (fileName : String) (m : AxisMaps) : Prop :=
  (∀ r ∈ rules, r.FiresOn fileName m → ∀ a, ofItems (r.add.get a) ≤ m a) ∧
    ∀ r ∈ rules, ∀ a, ∀ e ∈ r.remove.get a, m a e.identity = ⊥

namespace RuleSet

/-- Whether a rule set has left nothing to do: its rules have not, and the copies of all vendors are there. -/
structure DoneWith (s : RuleSet) (d : Dependency) : Prop where
  rules : DoneOn s.rules d.fileName d.maps
  copies : ∀ e ∈ d.vendor.entries, ofItems (Duplication.copies s.duplications e) ≤ d.vendor.toMap

variable {s : RuleSet} {d : Dependency}

theorem step_of_doneOn {r : HintRule} (hadd : r.FiresOn d.fileName d.maps → ∀ a, ofItems (r.add.get a) ≤ d.maps a)
    (hremove : ∀ a, ∀ e ∈ r.remove.get a, d.maps a e.identity = ⊥) : HintRule.step d r = d := by
  by_cases h : r.fires d = true
  · have hchange : ∀ a, r.change a (d.evidence a) = d.evidence a := fun a => by
      have hextend : (d.evidence a).extend (r.add.get a) = d.evidence a :=
        Collection.extend_eq_self (hadd ((r.fires_iff d).1 h) a)
      rw [HintRule.change, hextend]
      exact Collection.foldl_remove_eq_self (hremove a)
    rw [HintRule.step, if_pos h]
    exact Dependency.withEvidence_eq (hchange .vendor) (hchange .product) (hchange .version)
  · rw [HintRule.step, if_neg h]

/-- **A rule set that is done with a dependency leaves it as it is.** -/
theorem apply_of_doneWith (h : s.DoneWith d) : s.apply d = d := by
  have hrules : ∀ rules : List HintRule, DoneOn rules d.fileName d.maps → rules.foldl HintRule.step d = d := by
    intro rules hdone
    induction rules with
    | nil => rfl
    | cons r rest ih =>
      obtain ⟨hadd, hremove⟩ := hdone
      rw [List.foldl_cons, step_of_doneOn (hadd r List.mem_cons_self) (hremove r List.mem_cons_self)]
      exact ih ⟨fun q hq => hadd q (List.mem_cons_of_mem _ hq), fun q hq => hremove q (List.mem_cons_of_mem _ hq)⟩
  have hcopies : Duplication.applyTo s.duplications d.vendor = d.vendor := by
    refine Collection.extend_eq_self (EvidenceMap.ofItems_le_iff.2 fun x hx => ?_)
    obtain ⟨e, he, hx⟩ := List.mem_flatMap.1 hx
    exact EvidenceMap.ofItems_le_iff.1 (h.copies e he) x hx
  rw [apply, hrules s.rules h.rules]
  exact Dependency.withEvidence_eq hcopies rfl rfl

/-! ## Stable rule sets -/

/-- What keeps a rule set from giving itself more to do. -/
structure Stable (s : RuleSet) : Prop where
  /-- No rule adds what a rule waits for. -/
  added : ∀ a ∈ Axis.all, ∀ r ∈ s.rules, ∀ q ∈ s.rules, ∀ e ∈ r.given.get a, ∀ x ∈ q.add.get a, e.identity ≠ x.identity
  /-- A rule waits for what it removes. -/
  removed : ∀ a ∈ Axis.all, ∀ r ∈ s.rules, ∀ x ∈ r.remove.get a, x.identity ∈ (r.given.get a).map Evidence.identity
  /-- No rule waits for copies. -/
  marked : ∀ r ∈ s.rules, ∀ e ∈ r.given.vendor, ¬ folded " (hint)" <:+ folded e.source
  /-- Copies are not copied. -/
  copied : ∀ p ∈ s.duplications, ∀ q ∈ s.duplications, equalIgnoringCase p.value q.duplicate = false

instance (s : RuleSet) : Decidable s.Stable :=
  decidable_of_iff
    ((∀ a ∈ Axis.all, ∀ r ∈ s.rules, ∀ q ∈ s.rules, ∀ e ∈ r.given.get a, ∀ x ∈ q.add.get a,
        e.identity ≠ x.identity) ∧
      (∀ a ∈ Axis.all, ∀ r ∈ s.rules, ∀ x ∈ r.remove.get a, x.identity ∈ (r.given.get a).map Evidence.identity) ∧
      (∀ r ∈ s.rules, ∀ e ∈ r.given.vendor, ¬ folded " (hint)" <:+ folded e.source) ∧
      ∀ p ∈ s.duplications, ∀ q ∈ s.duplications, equalIgnoringCase p.value q.duplicate = false)
    ⟨fun ⟨h₁, h₂, h₃, h₄⟩ => ⟨h₁, h₂, h₃, h₄⟩, fun h => ⟨h.added, h.removed, h.marked, h.copied⟩⟩

set_option maxRecDepth 20000 in
/-- The built-in document is read, and its rules are stable. -/
theorem exists_stable_builtin : ∃ rules, RuleSet.ofText builtinRules = .ok rules ∧ rules.Stable := by
  -- the characters are given, as the kernel cannot go through a long text byte by byte
  have h : ∃ chars, builtinRules.toList = chars ∧
      (ofReading (Xml.read chars)).toOption.any (fun rules => decide rules.Stable) = true :=
    ⟨_, String.toList_ofList, by decide +kernel⟩
  obtain ⟨chars, hchars, h⟩ := h
  obtain ⟨rules, hrules, hstable⟩ := (Option.any_eq_true _ _).1 h
  refine ⟨rules, ?_, of_decide_eq_true hstable⟩
  rw [ofText, hchars]
  cases hread : ofReading (Xml.read chars) with
  | error e => simp [hread, Except.toOption] at hrules
  | ok found => simpa [hread, Except.toOption] using hrules

namespace Stable

variable {r q : HintRule} {a : Axis} {m : AxisMaps} {fileName : String}

theorem given_ne_added (hs : s.Stable) (hr : r ∈ s.rules) (hq : q ∈ s.rules) {i : Identity}
    (hi : i ∈ (r.given.get a).map Evidence.identity) : i ∉ (q.add.get a).map Evidence.identity := by
  intro h
  obtain ⟨e, he, rfl⟩ := List.mem_map.1 hi
  obtain ⟨x, hx, hxe⟩ := List.mem_map.1 h
  exact hs.added a a.mem_all r hr q hq e he x hx hxe.symm

theorem given_of_removed (hs : s.Stable) (hr : r ∈ s.rules) {i : Identity}
    (hi : i ∈ (r.remove.get a).map Evidence.identity) : i ∈ (r.given.get a).map Evidence.identity := by
  obtain ⟨x, hx, rfl⟩ := List.mem_map.1 hi
  exact hs.removed a a.mem_all r hr x hx

/-- A rule brings in nothing that a rule waits for. -/
theorem stepMaps_given_le (hs : s.Stable) (hr : r ∈ s.rules) (hq : q ∈ s.rules) {i : Identity}
    (hi : i ∈ (r.given.get a).map Evidence.identity) : HintRule.stepMaps fileName m q a i ≤ m a i := by
  unfold HintRule.stepMaps
  split
  · rw [HintRule.changeMaps, EvidenceMap.without]
    split
    · exact bot_le
    · rw [Pi.sup_apply, ofItems_eq_bot_iff.2 (hs.given_ne_added hr hq hi), sup_bot_eq]
  · exact le_rfl

/-- A rule takes nothing away that a rule adds. -/
theorem le_stepMaps_added (hs : s.Stable) (hr : r ∈ s.rules) (hq : q ∈ s.rules) (h : ofItems (r.add.get a) ≤ m a) :
    ofItems (r.add.get a) ≤ HintRule.stepMaps fileName m q a := by
  unfold HintRule.stepMaps
  split
  · intro i
    rw [HintRule.changeMaps, EvidenceMap.without]
    split
    · next hi =>
      have hnot : i ∉ (r.add.get a).map Evidence.identity := hs.given_ne_added hq hr (hs.given_of_removed hq hi)
      rw [ofItems_eq_bot_iff.2 hnot]
    · exact le_sup_of_le_left (h i)
  · exact h

/-- A rule that fires has everything there that it adds. -/
theorem added_le_stepMaps (hs : s.Stable) (hr : r ∈ s.rules) (h : r.FiresOn fileName m) :
    ofItems (r.add.get a) ≤ HintRule.stepMaps fileName m r a := by
  intro i
  rw [HintRule.stepMaps, if_pos h, HintRule.changeMaps, EvidenceMap.without]
  split
  · next hi => rw [ofItems_eq_bot_iff.2 (hs.given_ne_added hr hr (hs.given_of_removed hr hi))]
  · exact le_sup_right

theorem firesOn_of_given_le {m m' : AxisMaps}
    (h : ∀ a, ∀ i ∈ (r.given.get a).map Evidence.identity, m' a i ≤ m a i) (hf : r.FiresOn fileName m') :
    r.FiresOn fileName m := by
  rcases hf with ⟨a, e, he, hne⟩ | hpattern
  · exact .inl ⟨a, e, he, fun hbot => hne (le_bot_iff.1 (hbot ▸ h a _ (List.mem_map_of_mem he)))⟩
  · exact .inr hpattern

/-- Maps that are larger, but not where a rule waits, leave a rule nothing to do if the smaller ones do not. -/
theorem doneOn_mono (hs : s.Stable) {rules : List HintRule} (hsub : ∀ r ∈ rules, r ∈ s.rules) {m m' : AxisMaps}
    (hgiven : ∀ r ∈ rules, ∀ a, ∀ i ∈ (r.given.get a).map Evidence.identity, m' a i ≤ m a i)
    (hadded : ∀ r ∈ rules, ∀ a, ofItems (r.add.get a) ≤ m a → ofItems (r.add.get a) ≤ m' a)
    (h : DoneOn rules fileName m) : DoneOn rules fileName m' := by
  refine ⟨fun r hr hf a => hadded r hr a (h.1 r hr (firesOn_of_given_le (hgiven r hr) hf) a), fun r hr a e he => ?_⟩
  have hi := hs.given_of_removed (hsub r hr) (List.mem_map_of_mem he)
  exact le_bot_iff.1 ((hgiven r hr a _ hi).trans_eq (h.2 r hr a e he))

/-- Each rule is done when its turn is over, and stays so. -/
theorem doneOn_foldl (hs : s.Stable) {rules : List HintRule} (hsub : ∀ r ∈ rules, r ∈ s.rules) (m : AxisMaps) :
    DoneOn rules fileName (rules.foldl (HintRule.stepMaps fileName) m) := by
  induction rules using List.reverseRecOn with
  | nil => exact ⟨fun r hr => absurd hr List.not_mem_nil, fun r hr => absurd hr List.not_mem_nil⟩
  | append_singleton rules q ih =>
    have hq : q ∈ s.rules := hsub q (List.mem_append_right _ List.mem_cons_self)
    have hrules : ∀ r ∈ rules, r ∈ s.rules := fun r hr => hsub r (List.mem_append_left _ hr)
    rw [List.foldl_append, List.foldl_cons, List.foldl_nil]
    generalize hm : rules.foldl (HintRule.stepMaps fileName) m = m₁ at ih ⊢
    obtain ⟨hadd, hremove⟩ := hs.doneOn_mono hrules
      (fun r hr _ _ hi => hs.stepMaps_given_le (hrules r hr) hq hi)
      (fun r hr _ h => hs.le_stepMaps_added (hrules r hr) hq h) (ih hrules)
    have hfires : q.FiresOn fileName (HintRule.stepMaps fileName m₁ q) → q.FiresOn fileName m₁ :=
      firesOn_of_given_le fun a i hi => hs.stepMaps_given_le hq hq hi
    constructor
    · intro r hr hf a
      rcases List.mem_append.1 hr with hr | hr
      · exact hadd r hr hf a
      · obtain rfl := List.mem_singleton.1 hr
        exact hs.added_le_stepMaps hq (hfires hf)
    · intro r hr a e he
      rcases List.mem_append.1 hr with hr | hr
      · exact hremove r hr a e he
      · obtain rfl := List.mem_singleton.1 hr
        by_cases hf : r.FiresOn fileName m₁
        · rw [HintRule.stepMaps, if_pos hf]
          exact HintRule.changeMaps_of_removed m₁ he
        · -- the rule waits for what it removes, so that this is absent
          obtain ⟨x, hx, hxe⟩ := List.mem_map.1 (hs.given_of_removed hq (List.mem_map_of_mem he))
          rw [HintRule.stepMaps, if_neg hf, ← hxe]
          exact not_not.1 fun hne => hf (.inl ⟨a, x, hx, hne⟩)

/-! ### Copies -/

theorem folded_append (x y : String) : folded (x ++ y) = folded x ++ folded y := by
  simp [folded, Unicode.lowercaseEach]

theorem mem_copies {rules : List Duplication} {e x : Evidence} (h : x ∈ Duplication.copies rules e) :
    ∃ p ∈ rules, x = ⟨e.source ++ " (hint)", e.name, p.duplicate, e.confidence⟩ := by
  obtain ⟨p, hp, rfl⟩ := List.mem_map.1 h
  exact ⟨p, List.mem_of_mem_filter hp, rfl⟩

/-- No rule waits for a copy. -/
theorem given_ne_copy (hs : s.Stable) (hr : r ∈ s.rules) {e x : Evidence} (hx : x ∈ Duplication.copies s.duplications e)
    {i : Identity} (hi : i ∈ r.given.vendor.map Evidence.identity) : i ≠ x.identity := by
  obtain ⟨y, hy, rfl⟩ := List.mem_map.1 hi
  obtain ⟨p, -, rfl⟩ := mem_copies hx
  intro h
  have hsource : folded y.source = folded (e.source ++ " (hint)") := congrArg Identity.source h
  exact hs.marked r hr y hy ⟨folded e.source, by rw [hsource, folded_append]⟩

/-- Copies are not copied. -/
theorem copies_copy (hs : s.Stable) {e x : Evidence} (hx : x ∈ Duplication.copies s.duplications e) :
    Duplication.copies s.duplications x = [] := by
  obtain ⟨q, hq, rfl⟩ := mem_copies hx
  rw [Duplication.copies, List.map_eq_nil_iff, List.filter_eq_nil_iff]
  exact fun p hp => Bool.eq_false_iff.1 (hs.copied p hp q hq)

/-- **A stable rule set is done with what it leaves.** -/
theorem doneWith_apply (hs : s.Stable) (d : Dependency) : s.DoneWith (s.apply d) := by
  let d₁ := s.rules.foldl HintRule.step d
  let made := d₁.vendor.entries.flatMap (Duplication.copies s.duplications)
  have hvendor : (s.apply d).maps .vendor = d₁.maps .vendor ⊔ ofItems made := Collection.toMap_extend d₁.vendor made
  have hname : (s.apply d).fileName = d.fileName := fileName_foldl_step s.rules d
  have hrules : DoneOn s.rules d.fileName d₁.maps := by
    rw [maps_foldl_step]
    exact hs.doneOn_foldl (fun _ hr => hr) d.maps
  constructor
  · rw [hname]
    refine hs.doneOn_mono (fun _ hr => hr) (fun r hr a i hi => ?_) (fun r _ a h => ?_) hrules
    · cases a with
      | vendor =>
        have hnone : i ∉ made.map Evidence.identity := by
          intro hmem
          obtain ⟨x, hx, rfl⟩ := List.mem_map.1 hmem
          obtain ⟨e, -, hx⟩ := List.mem_flatMap.1 hx
          exact hs.given_ne_copy hr hx hi rfl
        rw [hvendor, Pi.sup_apply, ofItems_eq_bot_iff.2 hnone, sup_bot_eq]
      | product => exact le_rfl
      | version => exact le_rfl
    · cases a with
      | vendor => exact hvendor ▸ le_sup_of_le_left h
      | product => exact h
      | version => exact h
  · intro e he
    show ofItems _ ≤ (s.apply d).maps .vendor
    rcases Collection.mem_extend (show e ∈ (d₁.vendor.extend made).entries from he) with he | he
    · refine hvendor ▸ le_sup_of_le_right (EvidenceMap.ofItems_le_iff.2 fun x hx => ?_)
      exact EvidenceMap.ofItems_le_iff.1 le_rfl x (List.mem_flatMap.2 ⟨e, he, hx⟩)
    · obtain ⟨f, -, he⟩ := List.mem_flatMap.1 he
      rw [hs.copies_copy he]
      exact bot_le

end Stable

/-! ## Merging -/

/-- Merging gives a rule set nothing to do that it has done. -/
theorem DoneWith.absorb {p t : Dependency} (hp : s.DoneWith p) (ht : s.DoneWith t) : s.DoneWith (p.absorb t) := by
  have hmaps : ∀ a, (p.absorb t).maps a = p.maps a ⊔ t.maps a := Dependency.toMap_evidence_absorb p t
  constructor
  · constructor
    · intro r hr hf a
      -- what a rule waits for comes from one of the two
      have hone : r.FiresOn p.fileName p.maps ∨ r.FiresOn t.fileName t.maps := by
        rcases hf with ⟨b, e, he, hne⟩ | hpattern
        · rw [hmaps, Pi.sup_apply, Ne, sup_eq_bot_iff, not_and_or] at hne
          exact hne.imp (fun h => .inl ⟨b, e, he, h⟩) fun h => .inl ⟨b, e, he, h⟩
        · exact .inl (.inr hpattern)
      rw [hmaps]
      rcases hone with h | h
      · exact le_sup_of_le_left (hp.rules.1 r hr h a)
      · exact le_sup_of_le_right (ht.rules.1 r hr h a)
    · intro r hr a e he
      rw [hmaps, Pi.sup_apply, hp.rules.2 r hr a e he, ht.rules.2 r hr a e he, sup_bot_eq]
  · intro e he
    show ofItems _ ≤ (p.absorb t).maps .vendor
    rw [hmaps]
    rcases Collection.mem_extend (c := p.vendor) he with he | he
    · exact le_sup_of_le_left (hp.copies e he)
    · exact le_sup_of_le_right (ht.copies e he)

end RuleSet

end DependencyEvidence
