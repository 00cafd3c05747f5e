import DependencyEvidence.Proofs.Merge.Run
import Mathlib.Data.List.Nodup
import Mathlib.Logic.Relation

/-!
# Groups of dependencies

Two dependencies are linked if some rule of a list recognises the pair. Being linked is symmetric and transitive
(`linked_symm`, `linked_trans`): a file is of the kind of one rule at most (`accepts_unique`), and package paths are
compared by what they fold to. So it cuts a working set into groups (`group`), and `together` is the equivalence of
being in one group (`together_iff_eqvGen`).

`keeper` says which member of a group is to survive: the first one that its rule prefers, or the last one.
-/

namespace DependencyEvidence

/-! ## Linked pairs -/

/-- Whether some rule recognises a pair. -/
def linked (rules : List MergeRule) (a b : Dependency) : Bool := rules.any (·.joins a b)

/-- Whether the rule that is about such a file prefers it. -/
def preferred (rules : List MergeRule) (a : Dependency) : Bool := rules.any fun r => r.accepts a && r.prefersFirst a

theorem not_podspec_of_gemspec {name : String} (h : Text.hasSuffix gemspecSuffix name = true) :
    ¬ (Text.hasSuffix podspecSuffix name = true ∨ name = manifestName) := by
  rw [Text.hasSuffix_iff] at h
  rintro (k | rfl)
  · rw [Text.hasSuffix_iff] at k
    have heq : gemspecSuffix.toList = podspecSuffix.toList :=
      (List.suffix_of_suffix_length_le h k (by decide)).eq_of_length (by decide)
    exact absurd heq (by decide)
  · exact absurd h (by decide)

/-- A file is of the kind of one rule at most. -/
theorem accepts_unique {r s : MergeRule} {a : Dependency} (hr : r.accepts a = true) (hs : s.accepts a = true) :
    r = s := by
  cases r <;> cases s <;> simp only [MergeRule.accepts, Bool.or_eq_true, decide_eq_true_eq] at hr hs
  · rfl
  · exact absurd hs (not_podspec_of_gemspec hr)
  · exact absurd hr (not_podspec_of_gemspec hs)
  · rfl

theorem samePackage_iff {a b : Dependency} :
    samePackage a b = true ↔ ∃ p, a.packagePath.map folded = some p ∧ b.packagePath.map folded = some p := by
  unfold samePackage
  rcases a.packagePath with _ | p <;> rcases b.packagePath with _ | q
  · simp
  · simp
  · simp
  · simpa [equalIgnoringCase] using eq_comm

theorem joins_iff {r : MergeRule} {a b : Dependency} :
    r.joins a b = true ↔ (r.accepts a = true ∧ r.accepts b = true) ∧ samePackage a b = true := by
  rw [MergeRule.joins, Bool.and_eq_true, Bool.and_eq_true]

variable {rules : List MergeRule} {a b c : Dependency}

theorem linked_iff : linked rules a b = true ↔ ∃ r ∈ rules, r.joins a b = true := List.any_eq_true

theorem linked_symm (h : linked rules a b = true) : linked rules b a = true := by
  obtain ⟨r, hr, hj⟩ := linked_iff.1 h
  obtain ⟨⟨ha, hb⟩, hp⟩ := joins_iff.1 hj
  obtain ⟨p, hpa, hpb⟩ := samePackage_iff.1 hp
  exact linked_iff.2 ⟨r, hr, joins_iff.2 ⟨⟨hb, ha⟩, samePackage_iff.2 ⟨p, hpb, hpa⟩⟩⟩

theorem linked_trans (h : linked rules a b = true) (k : linked rules b c = true) : linked rules a c = true := by
  obtain ⟨r, hr, hj⟩ := linked_iff.1 h
  obtain ⟨s, -, kj⟩ := linked_iff.1 k
  obtain ⟨⟨ha, hb⟩, hp⟩ := joins_iff.1 hj
  obtain ⟨⟨hb', hc⟩, hq⟩ := joins_iff.1 kj
  obtain rfl := accepts_unique hb hb'
  obtain ⟨p, hpa, hpb⟩ := samePackage_iff.1 hp
  obtain ⟨q, hqb, hqc⟩ := samePackage_iff.1 hq
  obtain rfl : p = q := Option.some.inj (hpb.symm.trans hqb)
  exact linked_iff.2 ⟨r, hr, joins_iff.2 ⟨⟨ha, hc⟩, samePackage_iff.2 ⟨p, hpa, hqc⟩⟩⟩

/-- The rule that a plan finds for a pair prefers the first one if the rule of that file does. -/
theorem prefersFirst_of_find {r : MergeRule} (h : rules.find? (·.joins a b) = some r) :
    r.prefersFirst a = preferred rules a := by
  have hr : r ∈ rules := List.mem_of_find?_eq_some h
  have hj : r.joins a b = true := by simpa using List.find?_some h
  have ha : r.accepts a = true := (joins_iff.1 hj).1.1
  refine Bool.eq_iff_iff.2 ⟨fun k => ?_, fun k => ?_⟩
  · exact List.any_eq_true.2 ⟨r, hr, by simp [ha, k]⟩
  · obtain ⟨s, -, hs⟩ := List.any_eq_true.1 k
    obtain ⟨hsa, hsp⟩ := Bool.and_eq_true_iff.1 hs
    rwa [accepts_unique ha hsa]

/-- What is linked is looked up in the file names and the package paths only. -/
theorem linked_congr {a' b' : Dependency} (ha₁ : a'.fileName = a.fileName) (ha₂ : a'.packagePath = a.packagePath)
    (hb₁ : b'.fileName = b.fileName) (hb₂ : b'.packagePath = b.packagePath) :
    linked rules a' b' = linked rules a b := by
  unfold linked
  congr 1
  funext r
  cases r <;> simp only [MergeRule.joins, MergeRule.accepts, samePackage, ha₁, hb₁, ha₂, hb₂]

theorem linked_key {a' b' : Dependency} (ha : a'.key = a.key) (hb : b'.key = b.key) :
    linked rules a' b' = linked rules a b :=
  linked_congr (congrArg FileKey.fileName ha) (congrArg FileKey.packagePath ha) (congrArg FileKey.fileName hb)
    (congrArg FileKey.packagePath hb)

/-! ## Groups -/

/-- Whether two places of a working set are in one group: they are the same place, or linked. -/
def together (rules : List MergeRule) (b c : Placed) : Bool := b.1 = c.1 || linked rules b.2 c.2

/-- The members of the group of a place, among some places. -/
def groupIn (rules : List MergeRule) (l : List Placed) (b : Placed) : List Placed := l.filter (together rules b)

/-- The members of the group of a place, in the order of the working set. -/
def group (rules : List MergeRule) (deps : List Dependency) (b : Placed) : List Placed :=
  groupIn rules (places deps) b

/-- The member of a group that is to survive: the first preferred one, or else the last one. -/
def keeper (rules : List MergeRule) (members : List Placed) : Option Placed :=
  (members.find? (preferred rules ·.2)).or members.getLast?

theorem eq_of_fst_eq {l : List Placed} (hl : (l.map Prod.fst).Nodup) {b c : Placed} (hb : b ∈ l) (hc : c ∈ l)
    (h : b.1 = c.1) : b = c :=
  List.inj_on_of_nodup_map hl hb hc h

theorem nodup_fst_places (deps : List Dependency) : ((places deps).map Prod.fst).Nodup := by
  rw [map_fst_places]
  exact List.nodup_range

theorem together_refl (b : Placed) : together rules b b = true := by simp [together]

section Together

variable {deps : List Dependency} {x y z : Placed}

theorem together_iff (hx : x ∈ places deps) (hy : y ∈ places deps) :
    together rules x y = true ↔ x = y ∨ linked rules x.2 y.2 = true := by
  rw [together, Bool.or_eq_true, decide_eq_true_eq]
  exact or_congr_left ⟨eq_of_fst_eq (nodup_fst_places deps) hx hy, fun h => h ▸ rfl⟩

theorem together_symm (hx : x ∈ places deps) (hy : y ∈ places deps) (h : together rules x y = true) :
    together rules y x = true := by
  rw [together_iff hx hy] at h
  rw [together_iff hy hx]
  exact h.imp Eq.symm linked_symm

theorem together_trans (hx : x ∈ places deps) (hy : y ∈ places deps) (hz : z ∈ places deps)
    (h : together rules x y = true) (k : together rules y z = true) : together rules x z = true := by
  rw [together_iff hx hy] at h
  rw [together_iff hy hz] at k
  rcases h with rfl | h
  · exact (together_iff hx hz).2 k
  · rcases k with rfl | k
    · exact (together_iff hx hy).2 (.inr h)
    · exact (together_iff hx hz).2 (.inr (linked_trans h k))

/-- Groups are the classes of what the rules link. -/
theorem together_iff_eqvGen (hx : x ∈ places deps) (hy : y ∈ places deps) :
    together rules x y = true ↔
      Relation.EqvGen (fun b c => b ∈ places deps ∧ c ∈ places deps ∧ linked rules b.2 c.2 = true) x y := by
  rw [together_iff hx hy]
  constructor
  · rintro (rfl | h)
    · exact .refl _
    · exact .rel _ _ ⟨hx, hy, h⟩
  · intro h
    clear hx hy
    induction h with
    | rel x y h => exact .inr h.2.2
    | refl x => exact .inl rfl
    | symm x y _ ih => exact ih.imp Eq.symm linked_symm
    | trans x y z _ _ ihxy ihyz =>
      rcases ihxy with rfl | h
      · exact ihyz
      · rcases ihyz with rfl | k
        · exact .inr h
        · exact .inr (linked_trans h k)

end Together

/-! ## Keepers -/

theorem keeper_mem {l : List Placed} {b : Placed} (h : keeper rules l = some b) : b ∈ l := by
  rcases Option.or_eq_some_iff.1 h with h | ⟨-, h⟩
  · exact List.mem_of_find?_eq_some h
  · exact List.mem_of_getLast? h

/-- A preferred member at the front survives. -/
theorem keeper_cons_of_preferred {b : Placed} {l : List Placed} (h : preferred rules b.2 = true) :
    keeper rules (b :: l) = some b := by
  simp [keeper, h]

/-- A member at the front that is not preferred does not survive the others. -/
theorem keeper_cons_of_not_preferred {b : Placed} {l : List Placed} (h : preferred rules b.2 = false) (hl : l ≠ []) :
    keeper rules (b :: l) = keeper rules l := by
  obtain ⟨c, l, rfl⟩ := List.exists_cons_of_ne_nil hl
  rw [keeper, List.find?_cons_of_neg (by simp [h]), List.getLast?_cons_cons]
  rfl

theorem keeper_singleton (b : Placed) : keeper rules [b] = some b := by
  cases h : preferred rules b.2 <;> simp [keeper, h]

end DependencyEvidence
