import DependencyEvidence.Analysis.Merge
import DependencyEvidence.Proofs.Dependency.Forest
import DependencyEvidence.Proofs.Evidence.Map

/-!
# Trees of merges

A `MergeTree` says how records came together: which one was folded into which, in what order. `MergeTree.dependency`
carries the merges out. Whatever the shape of the tree, the result

* is the record at the root, as far as its key goes (`key_dependency`);
* has on each axis the pointwise maximum of the maps of all members (`toMap_evidence_dependency`);
* has directly below it what was below the members, and each member other than the root once, with nothing below it
  (`related_dependency`). So it holds exactly the records of its members (`keys_dependency`), and its nesting grows to
  one level at most (`nesting_dependency_le`).
-/

namespace DependencyEvidence

/-! ## One merge -/

namespace Dependency

theorem evidence_absorb (p s : Dependency) (a : Axis) :
    (p.absorb s).evidence a = (p.evidence a).extend (s.evidence a).entries := by
  cases a <;> rfl

theorem toMap_evidence_absorb (p s : Dependency) (a : Axis) :
    ((p.absorb s).evidence a).toMap = (p.evidence a).toMap ⊔ (s.evidence a).toMap := by
  rw [evidence_absorb, Collection.toMap_extend_entries]

theorem key_absorb (p s : Dependency) : (p.absorb s).key = p.key := rfl

theorem related_absorb (p s : Dependency) :
    (p.absorb s).related = p.related ++ s.related ++ [s.takeRelated.2] := rfl

theorem keys_takeRelated (d : Dependency) : d.takeRelated.2.keys = [d.key] := by
  rw [keys_eq]
  rfl

theorem nesting_takeRelated (d : Dependency) : d.takeRelated.2.nesting = 0 :=
  Nat.le_zero.1 (nesting_le.2 fun _ h => absurd h (List.not_mem_nil))

end Dependency

/-! ## Trees -/

/-- How records came together. -/
inductive MergeTree (α : Type) where
  | record (a : α)
  /-- The second tree was folded into the first. -/
  | merged (primary secondary : MergeTree α)

namespace MergeTree

variable {α : Type}

/-- The record into which all others were folded. -/
def root : MergeTree α → α
  | record a => a
  | merged p _ => p.root

/-- All records. -/
def members : MergeTree α → List α
  | record a => [a]
  | merged p s => p.members ++ s.members

/-- The trees that were folded into another one, as they were then. -/
def absorbed : MergeTree α → List (MergeTree α)
  | record _ => []
  | merged p s => p.absorbed ++ s.absorbed ++ [s]

/-- The dependency that the merges give, where `f` gives those of the records. -/
def dependency (f : α → Dependency) : MergeTree α → Dependency
  | record a => f a
  | merged p s => (p.dependency f).absorb (s.dependency f)

theorem members_perm (t : MergeTree α) : t.members.Perm (t.root :: t.absorbed.map root) := by
  induction t with
  | record a => exact .refl _
  | merged p s ihp ihs =>
    rw [members, root, absorbed, List.map_append, List.map_append, List.map_singleton, List.append_assoc]
    refine (ihp.append ihs).trans ?_
    rw [List.cons_append]
    exact ((List.perm_append_singleton s.root _).symm.append_left _).cons _

theorem members_ne_nil (t : MergeTree α) : t.members ≠ [] := by
  induction t with
  | record a => exact List.cons_ne_nil a []
  | merged p s ihp _ => exact List.append_ne_nil_of_left_ne_nil ihp _

/-- A tree with one member was not merged. -/
theorem eq_record_of_members {t : MergeTree α} {a : α} (h : t.members = [a]) : t = record a := by
  cases t with
  | record b => rw [List.singleton_inj.1 h]
  | merged p s =>
    rcases List.append_eq_singleton_iff.1 h with ⟨hp, -⟩ | ⟨-, hs⟩
    · exact absurd hp p.members_ne_nil
    · exact absurd hs s.members_ne_nil

theorem root_mem_members (t : MergeTree α) : t.root ∈ t.members := t.members_perm.symm.subset (by simp)

variable (f : α → Dependency)

theorem key_dependency (t : MergeTree α) : (t.dependency f).key = (f t.root).key := by
  induction t with
  | record a => rfl
  | merged p s ihp _ => exact ihp

/-- Each axis says what the members said together. -/
theorem toMap_evidence_dependency (t : MergeTree α) (a : Axis) :
    ((t.dependency f).evidence a).toMap = .join (t.members.map fun m => ((f m).evidence a).toMap) := by
  induction t with
  | record m => simp [dependency, members]
  | merged p s ihp ihs =>
    rw [dependency, Dependency.toMap_evidence_absorb, ihp, ihs, members, List.map_append, EvidenceMap.join_append]

/-- Directly below the result is what was below its members, and those that were folded into another one. -/
theorem related_dependency (t : MergeTree α) :
    (t.dependency f).related.Perm
      (t.members.flatMap (fun m => (f m).related) ++ t.absorbed.map fun u => (u.dependency f).takeRelated.2) := by
  induction t with
  | record a => simp [dependency, members, absorbed]
  | merged p s ihp ihs =>
    rw [dependency, Dependency.related_absorb, members, absorbed, List.flatMap_append, List.map_append, List.map_append,
      List.map_singleton]
    refine ((ihp.append ihs).append_right _).trans ?_
    simp only [List.append_assoc]
    refine List.Perm.append_left _ ?_
    rw [← List.append_assoc, ← List.append_assoc (List.flatMap _ s.members)]
    exact List.perm_append_comm.append_right _

/-- The result holds the records of its members. -/
theorem keys_dependency (t : MergeTree α) :
    (t.dependency f).keys.Perm (t.members.flatMap fun m => (f m).keys) := by
  induction t with
  | record a => simp [dependency, members]
  | merged p s ihp ihs =>
    rw [dependency, members, List.flatMap_append]
    refine List.Perm.trans ?_ (ihp.append ihs)
    rw [Dependency.keys_eq, Dependency.keys_eq (p.dependency f), Dependency.keys_eq (s.dependency f),
      Dependency.key_absorb, Dependency.related_absorb, List.flatMap_append, List.flatMap_append,
      List.flatMap_singleton, Dependency.keys_takeRelated, List.append_assoc, List.cons_append]
    exact ((List.perm_append_singleton _ _).append_left _).cons _

theorem nesting_dependency_le (t : MergeTree α) {n : Nat} (hn : 1 ≤ n) (h : ∀ m ∈ t.members, (f m).nesting ≤ n) :
    (t.dependency f).nesting ≤ n := by
  refine Dependency.nesting_le.2 fun r hr => ?_
  rcases List.mem_append.1 ((related_dependency f t).subset hr) with hr | hr
  · obtain ⟨m, hm, hr⟩ := List.mem_flatMap.1 hr
    exact Dependency.nesting_le.1 (h m hm) r hr
  · obtain ⟨u, -, rfl⟩ := List.mem_map.1 hr
    rw [Dependency.nesting_takeRelated]
    exact hn

end MergeTree

end DependencyEvidence
