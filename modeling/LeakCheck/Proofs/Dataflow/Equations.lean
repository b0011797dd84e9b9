import LeakCheck.Dataflow.Standard
import LeakCheck.Graph.Adjacency
import LeakCheck.Proofs.Dataflow.Clients

/-!
# Solutions satisfy the dataflow equations

Whatever the operations on flow values are, a vertex that does not wait is settled: what is stored
as entering it is the merge of what leaves its predecessors at that very moment, and what is stored
as leaving it is the transfer of that. `Settled` is this invariant and `Settled.step` its
preservation; neither a lattice law nor monotonicity is used, only that a change of a vertex queues
all vertices that have it as a predecessor, which is where the agreement of successors and
predecessors comes in. `solve_satisfies_equations` reads the invariant when nothing waits any more.
-/

namespace LeakCheck.Dataflow

section
variable {φ σ ε : Type} {p : Problem φ σ ε} {f : Vertex → φ → φ} {g : Graph}

/-- What leaves `n` is the transfer of what enters it, or was found to be the same. -/
def Agrees (L : Lattice φ) (f : Vertex → φ → φ) (sol : Solution φ) (n : Vertex) : Prop :=
  sol.after.get n = f n (sol.before.get n) ∨
    L.equal (f n (sol.before.get n)) (sol.after.get n) = true

/-- Only reachable vertices wait, those that do not are up to date, and nothing is known of the
others. -/
structure Settled (p : Problem φ σ ε) (g : Graph) (f : Vertex → φ → φ) (s : Progress φ σ) :
    Prop where
  /-- Only reachable vertices wait. -/
  queue_reachable : ∀ n ∈ s.queue, n ∈ g.reachable
  /-- The stored values of a reachable vertex that does not wait satisfy its equations. -/
  settled : ∀ n ∈ g.reachable, n ∉ s.queue →
    s.solution.before.get n = inflow p g s.solution.after n ∧ Agrees p.lattice f s.solution n
  /-- The other vertices keep the first value. -/
  untouched : ∀ n, n ∉ g.reachable →
    s.solution.before.get n = p.lattice.bottom ∧ s.solution.after.get n = p.lattice.bottom

/-- At first every reachable vertex waits. -/
theorem Settled.start (p : Problem φ σ ε) (g : Graph) (f : Vertex → φ → φ) (client : σ) :
    Settled p g f (start p g client) where
  queue_reachable n hn := (mem_pushAll.1 hn).elim (by simp) id
  settled n hn hq := absurd (mem_pushAll.2 (.inr hn)) hq
  untouched _ _ := ⟨rfl, rfl⟩

/-- A change of what leaves `n` does not affect a vertex that `n` has no edge to. -/
theorem inflow_set (p : Problem φ σ ε) (hg : g.WellFormed) (after : Assignment φ) {n m : Vertex}
    (y : φ) (hn : n ∈ g.nodes) (hm : m ∈ g.nodes) (hnm : m ∉ g.succs n) :
    inflow p g (after.set n y) m = inflow p g after m := by
  refine inflow_congr fun k hk => ?_
  have hkn : k ≠ n := fun e => hnm ((hg.mem_succs_iff n hn m hm).2 (e ▸ hk))
  rw [Assignment.get_set, if_neg hkn]

/-- **A step keeps the others settled and settles the vertex it evaluates**, unless that vertex is
its own successor and waits again. -/
theorem Settled.step (hp : p.Computes f) (hg : g.WellFormed) {s s' : Progress φ σ}
    (h : Settled p g f s) (hstep : Step p g s s') : Settled p g f s' := by
  cases hstep with
  | @keep before after k n rest y c c' ht he =>
    have hy := hp.eq_of_transfer ht
    have hn : n ∈ g.reachable := h.queue_reachable n (by simp)
    refine ⟨fun m hm => h.queue_reachable m (List.mem_cons_of_mem n hm), ?_, ?_⟩
    · intro m hm hq
      unfold Agrees
      dsimp only
      rw [Assignment.get_set]
      split
      · next hmn =>
        subst hmn
        exact ⟨rfl, .inr (by rw [hy]; exact he)⟩
      · next hmn => exact h.settled m hm fun hmem => (List.mem_cons.1 hmem).elim hmn hq
    · intro m hm
      have hmn : m ≠ n := fun e => hm (e ▸ hn)
      dsimp only
      rw [Assignment.get_set, if_neg hmn]
      exact h.untouched m hm
  | @change before after k n rest y c c' ht he =>
    have hy := hp.eq_of_transfer ht
    have hn : n ∈ g.reachable := h.queue_reachable n (by simp)
    refine ⟨?_, ?_, ?_⟩
    · intro m hm
      rcases mem_pushAll.1 hm with hm | hm
      · exact h.queue_reachable m (List.mem_cons_of_mem n hm)
      · exact hg.succs_reachable hn hm
    · intro m hm hq
      have hout : m ∉ rest ∧ m ∉ g.succs n := by
        rw [mem_pushAll, not_or] at hq
        exact hq
      have hin := inflow_set p hg after y (hg.reachable_subset hn) (hg.reachable_subset hm) hout.2
      unfold Agrees
      dsimp only
      rw [hin, Assignment.get_set, Assignment.get_set]
      split
      · next hmn =>
        subst hmn
        exact ⟨rfl, .inl hy.symm⟩
      · next hmn => exact h.settled m hm fun hmem => (List.mem_cons.1 hmem).elim hmn hout.1
    · intro m hm
      have hmn : m ≠ n := fun e => hm (e ▸ hn)
      dsimp only
      rw [Assignment.get_set, if_neg hmn, Assignment.get_set, if_neg hmn]
      exact h.untouched m hm

/-- Every state a solver passes through is settled. -/
theorem Visits.settled (hp : p.Computes f) (hg : g.WellFormed) {client : σ} {s : Progress φ σ}
    (h : Visits p g client s) : Settled p g f s := by
  induction h with
  | refl => exact .start p g f client
  | tail _ hstep ih => exact ih.step hp hg hstep

/-- Only reachable vertices are ever transferred through. -/
theorem Visits.transfer_reachable (hp : p.Computes f) (hg : g.WellFormed) {client : σ}
    {s : Progress φ (σ × List (Call φ))} (h : Visits p.logged g (client, []) s) :
    ∀ n x, Call.transfer n x ∈ s.client.2 → n ∈ g.reachable := by
  intro n x hcall
  obtain ⟨t, ht, hn, -⟩ := Visits.logged_transfer h hcall
  exact (Visits.settled hp hg ht).queue_reachable n hn

/-- **Solving solves the equations.** Whenever solving ends, at every vertex that can be reached
what enters is the merge of what leaves the predecessors, in their order and after the value that
enters the procedure at the entry, and what leaves is the transfer of what enters. The other
vertices keep the first value and are never transferred through. The operations on flow values are
arbitrary, provided that the comparison decides equality. -/
theorem solve_satisfies_equations (hp : p.Computes f)
    (heq : ∀ x y, p.lattice.equal x y = true ↔ x = y) {fuel : Nat} {client : σ}
    {sol : Solution φ} (hs : (solve p g fuel client).1 = .ok sol) :
    (∀ n, g.Reached n →
      sol.before.get n =
          (g.preds n).foldl (fun acc m => p.lattice.merge acc (sol.after.get m))
            (if n = g.entry then p.lattice.merge p.lattice.bottom p.lattice.entry
              else p.lattice.bottom) ∧
        sol.after.get n = f n (sol.before.get n)) ∧
    ∀ n, ¬ g.Reached n →
      sol.before.get n = p.lattice.bottom ∧ sol.after.get n = p.lattice.bottom ∧
        ∀ x, Call.transfer n x ∉ calls p g fuel client := by
  have hlogged : solve p.logged g fuel (client, []) =
      (.ok sol, (solve p.logged g fuel (client, [])).2) := by
    rw [p.logged_extends.solve_eq g fuel (client, [])] at hs
    exact Prod.ext hs rfl
  obtain ⟨hg, s, hrun, hqueue, rfl, hclient⟩ := solve_ok hlogged
  have hset := Visits.settled hp.logged hg hrun
  refine ⟨fun n hn => ?_, fun n hn => ?_⟩
  · obtain ⟨hin, hout⟩ := hset.settled n (hg.mem_reachable_iff.2 hn) (by simp [hqueue])
    refine ⟨hin, ?_⟩
    rcases hout with hout | hout
    · exact hout
    · exact ((heq _ _).1 hout).symm
  · have hn' : n ∉ g.reachable := fun h => hn (hg.mem_reachable_iff.1 h)
    obtain ⟨hbefore, hafter⟩ := hset.untouched n hn'
    refine ⟨hbefore, hafter, fun x hcall => ?_⟩
    rw [calls, ← hclient] at hcall
    exact hn' (Visits.transfer_reachable hp hg hrun n x hcall)

end

/-! ## A loop with a predecessor that is never reached -/

namespace Standard

/-- What a row without a failure does to a value; without a row it stays. -/
def rowAct {α φ : Type} (act : α → φ → φ) (rows : Vertex → Option (Row α)) (n : Vertex) (x : φ) :
    φ :=
  match rows n with
  | none => x
  | some row => act row.action x

/-- The largest value is a problem whose transfer computes what its rows do, if none of them
fails. -/
theorem largest_computes {bottom initial : Int} {rows : Vertex → Option (Row Shift)}
    (h : ∀ n row, rows n = some row → row.failure = none) :
    (largest bottom initial rows).Computes (rowAct Shift.act rows) := by
  intro n x s
  simp only [largest, recorded, rowAct]
  cases hrow : rows n with
  | none => rfl
  | some row => simp only [h n row hrow]

/-- The vertices `0` and `1` lead to each other, and `2`, which nothing leads to, leads to `1`. -/
def loopGraph : Graph :=
  let at0 : Vertex := some ⟨0, "a", 0⟩
  let at1 : Vertex := some ⟨1, "b", 0⟩
  (((Adjacency.ofEntry at0).addEdge at0 at1).addEdge at1 at0
    |>.addEdge (some ⟨2, "c", 0⟩) at1).toGraph

/-- The vertex `0` adds one, up to three; the others pass on what enters. -/
def countRows (n : Vertex) : Option (Row Shift) :=
  if n = some ⟨0, "a", 0⟩ then some ⟨.add 1 3, none⟩ else none

/-- Counting around the loop ends in a state where the vertex `0` adds one to what comes back to it
from `1`, and the vertex `2` was left alone although it is a predecessor of `1`. -/
theorem loop_satisfies_equations :
    ∃ sol, (solve (largest 0 0 countRows) loopGraph 20 {}).1 = .ok sol ∧
      sol.before.get (some ⟨0, "a", 0⟩) = max (max 0 0) (sol.after.get (some ⟨1, "b", 0⟩)) ∧
      sol.after.get (some ⟨0, "a", 0⟩) = (Shift.add 1 3).act (sol.before.get (some ⟨0, "a", 0⟩)) ∧
      sol.after.get (some ⟨2, "c", 0⟩) = 0 ∧
      ∀ x, Call.transfer (some ⟨2, "c", 0⟩) x ∉ calls (largest 0 0 countRows) loopGraph 20 {} := by
  have hg : loopGraph.WellFormed := .of_defect? (by decide)
  have hrows : ∀ n row, countRows n = some row → row.failure = none := by
    intro n row h
    unfold countRows at h
    split at h
    · cases h
      rfl
    · cases h
  have hbeside : ¬ loopGraph.Reached (some ⟨2, "c", 0⟩) := by
    rw [← hg.mem_reachable_iff]
    decide
  obtain ⟨sol, hs⟩ : ∃ sol, (solve (largest 0 0 countRows) loopGraph 20 {}).1 = .ok sol :=
    ⟨_, rfl⟩
  obtain ⟨hin, hout⟩ :=
    solve_satisfies_equations (largest_computes hrows) (fun x y => beq_iff_eq) hs
  obtain ⟨hbefore, hafter⟩ := hin (some ⟨0, "a", 0⟩) .refl
  exact ⟨sol, hs, hbefore, hafter, (hout _ hbeside).2⟩

end Standard

end LeakCheck.Dataflow
