import LeakCheck.Proofs.Fact.Members
import Mathlib.Data.Set.Card

/-!
# The semilattice of sets of facts

Sets of facts are compared by `equal` and `subset` and joined by `union`. Two sets that have the
same members may list them in different orders, so the laws of a join-semilattice hold up to `equal`
(`FactSet.Laws`). Each of them is the law of sets, read through `members`.
-/

namespace LeakCheck.FactSet

theorem subset_iff (s t : FactSet) : s.subset t = true ↔ s.members ⊆ t.members := by
  rw [subset, List.all_eq_true]
  constructor
  · intro h f hf
    exact h f ((s.has_iff f).1 hf)
  · intro h f hf
    exact h ((s.has_iff f).2 hf)

/-- The size of a set is the number of its members. -/
theorem size_eq_ncard (s : FactSet) : s.size = s.members.ncard := by
  have hmembers : s.members = (s.facts.toFinset : Set Fact) := by
    ext f
    rw [mem_members, has_iff, List.coe_toFinset, Set.mem_ofPred_eq]
  rw [hmembers, Set.ncard_coe_finset, List.toFinset_card_of_nodup s.nodup]
  rfl

theorem tainted_iff_about_ne_nil (s : FactSet) (v : Var) : s.tainted v = true ↔ s.about v ≠ [] := by
  rw [tainted_iff, Ne, List.eq_nil_iff_forall_not_mem]
  simp only [mem_about, not_forall, not_not]

@[simp] theorem members_insert (s : FactSet) (f : Fact) :
    (s.insert f).members = Insert.insert f s.members := by
  ext g
  rw [mem_members, has_insert, Set.mem_insert_iff, mem_members, or_comm]

@[simp] theorem members_erase (s : FactSet) (f : Fact) :
    (s.erase f).members = s.members \ {f} := by
  ext g
  rw [mem_members, has_erase, Set.mem_sdiff, mem_members, Set.mem_singleton_iff]

@[simp] theorem members_ofList (facts : List Fact) : (ofList facts).members = {f | f ∈ facts} := by
  ext f
  rw [mem_members, ofList, has_foldl_insert, has_empty, Set.mem_ofPred_eq]
  simp

/-- The laws of three sets of facts and one that has no members. -/
structure Laws (bottom s t u : FactSet) : Prop where
  /-- Sets are equal iff they have the same members. -/
  equal_iff_members : s.equal t = true ↔ s.members = t.members
  /-- A set is a subset iff all its members are members. -/
  subset_iff_members : s.subset t = true ↔ s.members ⊆ t.members
  /-- Each set is a subset of itself. -/
  subset_refl : s.subset s = true
  /-- A subset of a subset is a subset. -/
  subset_trans : s.subset t = true → t.subset u = true → s.subset u = true
  /-- Sets are subsets of each other iff they are equal. -/
  subset_antisymm : s.subset t = true ∧ t.subset s = true ↔ s.equal t = true
  /-- A set is a subset iff it adds nothing. -/
  subset_iff_union : s.subset t = true ↔ (s.union t).equal t = true
  /-- Joining is associative. -/
  union_assoc : ((s.union t).union u).equal (s.union (t.union u)) = true
  /-- Joining is commutative. -/
  union_comm : (s.union t).equal (t.union s) = true
  /-- Joining is idempotent. -/
  union_self : (s.union s).equal s = true
  /-- The set without members adds nothing on the left. -/
  bottom_union : (bottom.union s).equal s = true
  /-- The set without members adds nothing on the right. -/
  union_bottom : (s.union bottom).equal s = true
  /-- What is joined is a subset iff both sets are: the join is the least upper bound. -/
  union_subset_iff : (s.union t).subset u = true ↔ s.subset u = true ∧ t.subset u = true
  /-- The size is the number of members. -/
  size_eq : s.size = s.members.ncard
  /-- A variable is tainted iff facts about it are listed. -/
  tainted_iff_about : ∀ v, s.tainted v = true ↔ s.about v ≠ []
  /-- The facts that are listed about a variable are the members about it. -/
  mem_about_iff : ∀ v f, f ∈ s.about v ↔ f ∈ s.members ∧ f.var = v

/-- **Sets of facts form a join-semilattice** up to `equal`. -/
theorem laws {bottom : FactSet} (hbottom : bottom.members = ∅) (s t u : FactSet) :
    Laws bottom s t u where
  equal_iff_members := equal_iff s t
  subset_iff_members := subset_iff s t
  subset_refl := (subset_iff s s).2 (Set.Subset.refl _)
  subset_trans := by
    simp only [subset_iff]
    exact Set.Subset.trans
  subset_antisymm := by
    rw [subset_iff, subset_iff, equal_iff, Set.Subset.antisymm_iff]
  subset_iff_union := by
    rw [subset_iff, equal_iff, members_union, Set.union_eq_right]
  union_assoc := by
    rw [equal_iff]
    simp only [members_union, Set.union_assoc]
  union_comm := by
    rw [equal_iff, members_union, members_union, Set.union_comm]
  union_self := by
    rw [equal_iff, members_union, Set.union_self]
  bottom_union := by
    rw [equal_iff, members_union, hbottom, Set.empty_union]
  union_bottom := by
    rw [equal_iff, members_union, hbottom, Set.union_empty]
  union_subset_iff := by
    rw [subset_iff, subset_iff, subset_iff, members_union, Set.union_subset_iff]
  size_eq := size_eq_ncard s
  tainted_iff_about := tainted_iff_about_ne_nil s
  mem_about_iff _ _ := mem_about

end LeakCheck.FactSet
