import LeakCheck.Proofs.Dataflow.Changes

/-!
# The least solution

A solver that stopped at some solution above the least one would report what cannot happen.
`Visits.le_of_closed` says that no state of a run holds more than a family of values that is closed
under evaluation, in whatever order the vertices are evaluated; the solution that is returned is
such a family itself, so it is the least one (`solve_least`).
-/

namespace LeakCheck.Dataflow

section
variable {φ σ ε : Type} {p : Problem φ σ ε} {f : Vertex → φ → φ} {g : Graph}

/-- **Every run stays below a closed family.** If an evaluation of a reached vertex with the values
`out` gives nothing above `out`, nothing that is ever stored is above it either. -/
theorem Visits.le_of_closed {β : Type} [SemilatticeSup β] [OrderBot β] {γ : φ → β}
    (hp : p.Computes f) (hg : g.WellFormed) (hL : p.lattice.Models γ) (hf : MonotoneIn γ f)
    {out : Vertex → φ}
    (hout : ∀ n, g.Reached n → γ (f n (arriving p g out n)) ≤ γ (out n)) {client : σ}
    {s : Progress φ σ} (h : Visits p g client s) (n : Vertex) :
    γ (s.solution.before.get n) ≤ γ (arriving p g out n) ∧
      γ (s.solution.after.get n) ≤ γ (out n) := by
  refine Visits.values hp hg (P := fun n x => γ x ≤ γ (arriving p g out n))
    (Q := fun n x => γ x ≤ γ (out n)) (fun n => ?_) (fun n => ?_) ?_ ?_ h n
  · exact le_of_eq_of_le hL.bottom bot_le
  · exact le_of_eq_of_le hL.bottom bot_le
  · intro m _ after hafter
    exact arriving_mono hL hafter m
  · intro m hm x hx
    exact (hf m x _ hx).trans (hout m (hg.mem_reachable_iff.1 hm))

variable [SemilatticeSup φ] [OrderBot φ]

/-- **Solving finds the least solution.** Let the operations on flow values be those of a
join-semilattice and let the transfer never fail and be monotone. Whenever solving ends, what it
returns is a solution at every vertex that is reached, and it is below every family of values that
is closed under evaluation there, both in what leaves the vertices and in what enters them. -/
theorem solve_least (hp : p.Computes f) (hL : p.lattice.Models (id : φ → φ))
    (hf : ∀ n, Monotone (f n)) {fuel : Nat} {client : σ} {sol : Solution φ}
    (hs : (solve p g fuel client).1 = .ok sol) :
    (∀ n, g.Reached n → sol.before.get n = arriving p g sol.after.get n ∧
      sol.after.get n = f n (arriving p g sol.after.get n)) ∧
    ∀ out : Vertex → φ, (∀ n, g.Reached n → f n (arriving p g out n) ≤ out n) →
      ∀ n, g.Reached n → sol.after.get n ≤ out n ∧ sol.before.get n ≤ arriving p g out n := by
  obtain ⟨hg, s, hrun, hqueue, rfl, -⟩ := solve_ok (Prod.ext hs rfl)
  refine ⟨fun n hn => ?_, fun out hout n _ => ?_⟩
  · obtain ⟨hin, hafter⟩ := (Visits.settled hp hg hrun).settled n (hg.mem_reachable_iff.2 hn)
      (by simp [hqueue])
    refine ⟨hin, ?_⟩
    rw [show arriving p g s.solution.after.get n = s.solution.before.get n from hin.symm]
    rcases hafter with hafter | hafter
    · exact hafter
    · exact ((hL.equal _ _).1 hafter).symm
  · obtain ⟨hbefore, hafter⟩ :=
      Visits.le_of_closed hp hg hL (fun n _ _ hxy => hf n hxy) hout hrun n
    exact ⟨hafter, hbefore⟩

end

/-! ## A loop with more than one solution -/

namespace Standard

/-- Any larger number may go around the loop as well, but solving finds that one does. -/
theorem loop_least :
    ∃ sol, (solve (upToThree (countUpTo 1)) loopGraph 20 ()).1 = .ok sol ∧
      sol.after.get (some ⟨1, "b", 0⟩) = 1 ∧
      sol.after.get (some ⟨1, "b", 0⟩) ≤ 2 ∧ sol.before.get (some ⟨0, "a", 0⟩) ≤ 2 := by
  have hg : loopGraph.WellFormed := .of_defect? (by decide)
  obtain ⟨sol, hs⟩ : ∃ sol, (solve (upToThree (countUpTo 1)) loopGraph 20 ()).1 = .ok sol :=
    ⟨_, rfl⟩
  have hone : sol.after.get (some ⟨1, "b", 0⟩) = 1 := by
    cases hs
    rfl
  have hall : ∀ n ∈ loopGraph.reachable,
      countUpTo 1 n (arriving (upToThree (countUpTo 1)) loopGraph (fun _ => 2) n) ≤ 2 := by decide
  have hclosed := fun n (hn : loopGraph.Reached n) => hall n (hg.mem_reachable_iff.2 hn)
  obtain ⟨-, hleast⟩ := solve_least (upToThree_computes (countUpTo 1)) (upToThree_models _)
    (countUpTo_monotone 1) hs
  have hback : loopGraph.Reached (some ⟨1, "b", 0⟩) := hg.mem_reachable_iff.1 (by decide)
  exact ⟨sol, hs, hone, (hleast _ hclosed _ hback).1, (hleast _ hclosed _ .refl).2⟩

end Standard

end LeakCheck.Dataflow
