import LeakCheck.Proofs.Propagation.Run

/-!
# The propagation as a merge over paths

A run merges what arrives at a vertex and goes around loops until nothing changes. What it finds is
what following every path from the entry on its own gives: nothing is lost, since the solution of a
run is closed under the flow along a path (`Solves.along_before`), and merging invents nothing,
since a fact leaves a statement because of at most one fact that enters it (`Visits.along`).
-/

namespace LeakCheck.Propagation

open Dataflow

variable {σ ε : Type}

namespace Analysis

/-- The facts left after the statements at `ps`, one after the other, from no facts. -/
def along (a : Analysis) (ps : List Vertex) : FactSet :=
  ps.foldl (fun x n => a.flowAt n x) .empty

theorem along_concat (a : Analysis) (ps : List Vertex) (n : Vertex) :
    a.along (ps ++ [n]) = a.flowAt n (a.along ps) := by
  simp only [along, List.foldl_append, List.foldl_cons, List.foldl_nil]

section
variable {a : Analysis} {g : Graph} {sol : Solution FactSet}

/-- A solution has every fact that arrives along a path. -/
theorem Solves.along_before (h : a.Solves g sol) {ps : List Vertex} {n : Vertex}
    (hpath : g.PathTo ps n) : (a.along ps).members ⊆ (sol.before.get n).members := by
  induction ps using List.reverseRecOn generalizing n with
  | nil => exact fun f hf => nomatch hf
  | append_singleton ps m ih =>
    obtain ⟨hfirst, hedge⟩ := Graph.pathTo_concat.1 hpath
    have hm : g.Reached m := Graph.exists_pathTo_iff.1 ⟨ps, hfirst⟩
    intro f hf
    rw [along_concat] at hf
    have hafter := (h.has_after m hm f).2 (a.flowAt_monotone m _ _ (ih hfirst) hf)
    exact (h.arrive hm hedge hafter).2

/-- A solution has every fact that leaves the end of a path. -/
theorem Solves.along_after (h : a.Solves g sol) {ps : List Vertex} {n : Vertex}
    (hpath : g.PathTo ps n) : (a.along (ps ++ [n])).members ⊆ (sol.after.get n).members := by
  have hn : g.Reached n := Graph.exists_pathTo_iff.1 ⟨ps, hpath⟩
  intro f hf
  rw [along_concat] at hf
  exact (h.has_after n hn f).2 (a.flowAt_monotone n _ _ (h.along_before hpath) hf)

end

end Analysis

/-- **No fact without a path.** What a solver holds at any time about a vertex arrives, or leaves,
along some path to it. -/
theorem Visits.along {a : Analysis} {host : Host σ ε} (hh : host.NeverFails) {g : Graph}
    (hg : g.WellFormed) {c : Session σ} {t : Progress FactSet (Session σ)}
    (h : Visits (a.problem host) g c t) (n : Vertex) (f : Fact) :
    ((t.solution.before.get n).has f = true →
      ∃ ps, g.PathTo ps n ∧ (a.along ps).has f = true) ∧
    ((t.solution.after.get n).has f = true →
      ∃ ps, g.PathTo ps n ∧ (a.along (ps ++ [n])).has f = true) := by
  refine Visits.facts hh hg (P := fun n f => ∃ ps, g.PathTo ps n ∧ (a.along ps).has f = true)
    (Q := fun n f => ∃ ps, g.PathTo ps n ∧ (a.along (ps ++ [n])).has f = true) ?_ ?_ h n f
  · rintro m n f hedge ⟨ps, hpath, hf⟩
    exact ⟨ps ++ [m], Graph.pathTo_concat.2 ⟨hpath, hedge⟩, hf⟩
  · intro n hn x hx f hf
    -- either every path to `n` gives the fact, or the one along which its cause arrived
    rcases has_flow_of_one hf with hall | ⟨e, he, hone⟩
    · obtain ⟨ps, hpath⟩ := Graph.exists_pathTo_iff.2 hn
      refine ⟨ps, hpath, ?_⟩
      rw [Analysis.along_concat]
      exact hall _
    · obtain ⟨ps, hpath, hps⟩ := hx e he
      refine ⟨ps, hpath, ?_⟩
      rw [Analysis.along_concat]
      exact hone _ hps

namespace Analysis

/-- **The propagation is the merge over all paths.** On a graph without defects, with a host that
never fails, a run has a solution: the facts that enter a vertex are those that the statements
passed on some path from the entry to it leave, those that leave it are the same with its own
statement at the end, and where no path leads there are none. -/
theorem run_merges_paths (a : Analysis) {host : Host σ ε} (hh : host.NeverFails) {g : Graph}
    (hg : g.defect? = none) (s : Session σ) :
    ∃ sol, (a.run host g s).1 = .ok sol ∧ ∀ n,
      (∀ f, (sol.before.get n).has f = true ↔
        ∃ ps, g.PathTo ps n ∧ (a.along ps).has f = true) ∧
      (∀ f, (sol.after.get n).has f = true ↔
        ∃ ps, g.PathTo ps n ∧ (a.along (ps ++ [n])).has f = true) ∧
      (¬ g.Reached n → sol.before.get n = .empty ∧ sol.after.get n = .empty) := by
  have hwf := Graph.WellFormed.of_defect? hg
  obtain ⟨t, ht, hqueue, hrun⟩ := a.run_ok hh hg s
  have hsol := Solves.of_visits hh hwf ht hqueue
  refine ⟨t.solution, by rw [hrun], fun n => ⟨fun f => ?_, fun f => ?_, hsol.unreached n⟩⟩
  · refine ⟨(Visits.along hh hwf ht n f).1, ?_⟩
    rintro ⟨ps, hpath, hf⟩
    exact hsol.along_before hpath hf
  · refine ⟨(Visits.along hh hwf ht n f).2, ?_⟩
    rintro ⟨ps, hpath, hf⟩
    exact hsol.along_after hpath hf

end Analysis

namespace Sample

/-- The copy arrives at the last vertex along the path that leaves the loop at once, and no run of
the loop loses it. -/
theorem relay_merges_paths :
    ∃ sol, (relay.run keeper relayGraph ⟨[], []⟩).1 = .ok sol ∧
      (sol.before.get (vertex 3)).has ⟨vertex 1, y⟩ = true ∧
      (sol.after.get (vertex 2)).has ⟨vertex 1, y⟩ = true := by
  obtain ⟨sol, hrun, hpaths⟩ :=
    relay.run_merges_paths keeper_neverFails (g := relayGraph) (by decide) ⟨[], []⟩
  have hpath : relayGraph.PathTo [vertex 0, vertex 1] (vertex 2) := by decide
  refine ⟨sol, hrun, ?_, ?_⟩
  · exact ((hpaths (vertex 3)).1 _).2 ⟨[vertex 0, vertex 1, vertex 2], by decide, by decide⟩
  · exact ((hpaths (vertex 2)).2.1 _).2 ⟨_, hpath, by decide⟩

end Sample

end LeakCheck.Propagation
