import DependencyEvidence.Proofs.Merge.References

/-!
# Where references come from

A dependency that others were folded into has references of its own, and references that it was given. Each of these was
a reference of some file before, and that file has the same known content (`Source`): a step hands all references on at
once, but only between files of the same content, so that what had come from elsewhere has this content as well. The
argument is an induction on the tree of merges, and holds for any steps (`MergeTree.exists_source`). After a plan, the
files of a tree are a group (`references_come_from_content`).
-/

namespace DependencyEvidence

/-! ## Trees of merges -/

/-- Whether a reference of `m` may be one of the tree's result: `m` is the root, or has its known content. -/
def MergeTree.Source {α : Type} (f : α → Dependency) (t : MergeTree α) (m : α) : Prop :=
  m = t.root ∨ ((f m).sha256 ≠ "" ∧ (f m).sha256 = (f t.root).sha256)

namespace MergeTree

variable {α : Type} (f : α → Dependency)

theorem sha256_dependency (t : MergeTree α) : (t.dependency f).sha256 = (f t.root).sha256 :=
  congrArg FileKey.sha256 (t.key_dependency f)

/-- A source of the second tree is one of the first, if both have the same known content. -/
theorem Source.handOn {p s : MergeTree α} {m : α} (h : s.Source f m) (hknown : (f p.root).sha256 ≠ "")
    (hsame : (f p.root).sha256 = (f s.root).sha256) : p.Source f m := by
  right
  rcases h with rfl | ⟨hm, hroot⟩
  · exact ⟨hsame ▸ hknown, hsame.symm⟩
  · exact ⟨hm, hroot.trans hsame.symm⟩

/-- **Every reference of a result was one of a source.** -/
theorem exists_source (t : MergeTree α) {x : String} (hx : x ∈ (t.dependency f).references.names) :
    ∃ m ∈ t.members, t.Source f m ∧ x ∈ (f m).references.names := by
  induction t with
  | record a => exact ⟨a, List.mem_singleton_self a, .inl rfl, hx⟩
  | merged p s ihp ihs =>
    rcases Dependency.mem_references_absorb.1 hx with hx | ⟨hknown, hsame, hx⟩
    · obtain ⟨m, hm, hsource, hxm⟩ := ihp hx
      exact ⟨m, List.mem_append_left _ hm, hsource, hxm⟩
    · obtain ⟨m, hm, hsource, hxm⟩ := ihs hx
      rw [sha256_dependency, sha256_dependency] at hsame
      rw [sha256_dependency] at hknown
      exact ⟨m, List.mem_append_right _ hm, hsource.handOn f hknown hsame, hxm⟩

/-- The root keeps its references. -/
theorem references_root_subset (t : MergeTree α) :
    (f t.root).references.names ⊆ (t.dependency f).references.names := by
  induction t with
  | record a => exact List.Subset.refl _
  | merged p s ihp _ =>
    intro x hx
    exact Dependency.mem_references_absorb.2 (.inl (ihp hx))

end MergeTree

/-! ## The main statement -/

variable (rules : List MergeRule) (deps : List Dependency)

/-- The places that are left are in the order of the working set. -/
theorem map_root_sublist : ((mergedTrees rules deps).map MergeTree.root).Sublist (places deps) := by
  rw [mergedTrees, map_root_mergeForest]
  exact List.filter_sublist

/-- They are those of the keepers. -/
theorem mem_map_root_iff {b : Placed} (hb : b ∈ places deps) :
    b ∈ (mergedTrees rules deps).map MergeTree.root ↔ keeper rules (group rules deps b) = some b := by
  rw [mergedTrees, map_root_mergeForest, List.mem_filter, decide_eq_true_eq, mem_emptied_plan_iff rules deps hb]
  simp [hb]

/-- **No reference comes from a file of other or unknown content.** Merging leaves the keepers of the groups, in order,
and each of them keeps its references. Any other reference that it has after merging was a reference of a member of its
group, and this member has its content, which is known. -/
theorem references_come_from_content :
    ∃ kept : List Placed, kept.Sublist (places deps) ∧
      (∀ b ∈ places deps, b ∈ kept ↔ keeper rules (group rules deps b) = some b) ∧
      List.Forall₂ (fun b d => d.key = b.2.key ∧
        (∀ x ∈ b.2.references.names, x ∈ d.references.names) ∧
        ∀ x ∈ d.references.names, ∃ m ∈ group rules deps b, x ∈ m.2.references.names ∧
          (m = b ∨ (m.2.sha256 ≠ "" ∧ m.2.sha256 = d.sha256))) kept (mergeAll rules deps) := by
  refine ⟨(mergedTrees rules deps).map MergeTree.root, map_root_sublist rules deps,
    fun b hb => mem_map_root_iff rules deps hb, ?_⟩
  rw [mergeAll_eq, List.forall₂_map_left_iff, List.forall₂_map_right_iff, List.forall₂_same]
  intro t ht
  refine ⟨t.key_survivor, t.references_root_subset _, fun x hx => ?_⟩
  obtain ⟨m, hm, hsource, hxm⟩ := t.exists_source _ hx
  refine ⟨m, (members_perm_group ht).subset hm, hxm, ?_⟩
  rw [t.sha256_survivor]
  exact hsource

end DependencyEvidence
