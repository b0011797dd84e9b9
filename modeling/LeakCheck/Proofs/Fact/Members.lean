import LeakCheck.Fact.Basic
import Mathlib.Data.Set.Basic
import Mathlib.Data.List.Perm.Subperm

/-!
# The members of a set of facts

A set of facts stands for the set of its members; the order in which it lists them has no meaning.
`FactSet.members` is that set, and each operation on sets of facts is given by what it does to the
members. Comparing sizes and one inclusion is enough to compare members (`equal_iff`), because no
member is listed twice.
-/

namespace LeakCheck.FactSet

/-- The members as a set. -/
def members (s : FactSet) : Set Fact := {f | s.has f = true}

@[simp] theorem mem_members {s : FactSet} {f : Fact} : f ∈ s.members ↔ s.has f = true := Iff.rfl

@[simp] theorem members_empty : empty.members = ∅ := by
  ext f
  simp

@[simp] theorem members_union (s t : FactSet) : (s.union t).members = s.members ∪ t.members := by
  ext f
  rw [Set.mem_union, mem_members, mem_members, mem_members, has_union]

/-- Two sets are found equal iff they have the same members. -/
theorem equal_iff (s t : FactSet) : s.equal t = true ↔ s.members = t.members := by
  rw [equal, Bool.and_eq_true, beq_iff_eq, subset, List.all_eq_true]
  constructor
  · rintro ⟨hsize, hsub⟩
    have hperm : s.facts.Perm t.facts :=
      (s.nodup.subperm fun f hf => (t.has_iff f).1 (hsub f hf)).perm_of_length_le
        (Nat.le_of_eq hsize.symm)
    ext f
    rw [mem_members, mem_members, has_iff, has_iff, hperm.mem_iff]
  · intro h
    have hiff : ∀ f, f ∈ s.facts ↔ f ∈ t.facts := by
      intro f
      rw [← has_iff, ← has_iff, ← mem_members, ← mem_members, h]
    refine ⟨?_, fun f hf => (t.has_iff f).2 ((hiff f).1 hf)⟩
    exact ((List.perm_ext_iff_of_nodup s.nodup t.nodup).2 hiff).length_eq

/-- A fact is listed about a variable iff it is a member and about it. -/
theorem mem_about {s : FactSet} {v : Var} {f : Fact} :
    f ∈ s.about v ↔ s.has f = true ∧ f.var = v := by
  rw [about, List.mem_filter, has_iff, beq_iff_eq]

/-- A variable is tainted iff some member is about it. -/
theorem tainted_iff {s : FactSet} {v : Var} :
    s.tainted v = true ↔ ∃ f, s.has f = true ∧ f.var = v := by
  rw [tainted, List.any_eq_true]
  simp only [has_iff, beq_iff_eq]

/-- Inserting a list of facts adds exactly these. -/
theorem has_foldl_insert (s : FactSet) (facts : List Fact) (f : Fact) :
    (facts.foldl insert s).has f = true ↔ s.has f = true ∨ f ∈ facts := by
  induction facts generalizing s with
  | nil => simp
  | cons h facts ih => rw [List.foldl_cons, ih, has_insert, List.mem_cons, or_assoc]

end LeakCheck.FactSet
