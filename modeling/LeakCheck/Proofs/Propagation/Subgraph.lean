import LeakCheck.Proofs.Propagation.Reports

/-!
# More edges, more facts

Two runs on different graphs evaluate different vertices in different orders, so they cannot be
compared step by step. But a solution on the one graph is closed under all that a run on the other
does, if every edge that this run meets is an edge of the first (`Visits.within`). Hence a run on a
graph finds no more facts and leaks than one on a graph with more edges, and when the edges are the
same, the order in which vertices and edges are listed does not show (`run_mono_edges`).
-/

namespace LeakCheck.Propagation

open Dataflow

variable {σ ε τ δ : Type}

namespace Analysis

/-- What a run of `a` on `g` meets is met by a run of `a'` on `g'`: the same entry and secret
operation, every edge that leaves a reached vertex, and the same statements there. -/
structure Within (a : Analysis) (g : Graph) (a' : Analysis) (g' : Graph) : Prop where
  secret : a.secret = a'.secret
  entry : g.entry = g'.entry
  edge : ∀ m n, g.Reached m → g.Edge m n → g'.Edge m n
  statement : ∀ n, g.Reached n → a.statement n = a'.statement n

section
variable {a a' : Analysis} {g g' : Graph}

theorem Within.reached (h : a.Within g a' g') {n : Vertex} (hn : g.Reached n) : g'.Reached n :=
  hn.of_edges h.entry h.edge

theorem Within.flowAt_eq (h : a.Within g a' g') {n : Vertex} (hn : g.Reached n) (x : FactSet) :
    a.flowAt n x = a'.flowAt n x := by
  rw [flowAt, flowAt, h.secret, h.statement n hn]

/-- A run on a well-formed graph meets nothing but its vertices and edges, so it is within one on a
larger graph with the same statements. -/
theorem Within.of_subgraph (hg : g.WellFormed) (hsub : g.Subgraph g')
    (hsecret : a.secret = a'.secret) (hstatement : ∀ n ∈ g.nodes, a.statement n = a'.statement n) :
    a.Within g a' g' where
  secret := hsecret
  entry := hsub.entry
  edge m n hm hmn := hsub.edges m (hg.mem_nodes_of_reached hm) n hmn
  statement n hn := hstatement n (hg.mem_nodes_of_reached hn)

/-- If the larger graph has no other edges, a run on it is within one on the smaller. The larger one
may have other vertices, but then no edge leads to them. -/
theorem Within.of_same_edges (hg : g.WellFormed) (hg' : g'.WellFormed) (hsub : g.Subgraph g')
    (hsecret : a.secret = a'.secret) (hstatement : ∀ n ∈ g.nodes, a.statement n = a'.statement n)
    (hedges : ∀ m ∈ g'.nodes, ∀ n ∈ g'.succs m, m ∈ g.nodes ∧ n ∈ g.succs m) :
    a'.Within g' a g := by
  have hedge : ∀ m n, g'.Reached m → g'.Edge m n → g.Edge m n :=
    fun m n hm hmn => (hedges m (hg'.mem_nodes_of_reached hm) n hmn).2
  refine ⟨hsecret.symm, hsub.entry.symm, hedge, fun n hn => ?_⟩
  have hn' : g.Reached n := hn.of_edges hsub.entry.symm hedge
  exact (hstatement n (hg.mem_nodes_of_reached hn')).symm

end

end Analysis

/-- **A run stays within a solution that has all its edges.** No fact that a run on `g` ever stores
is missing from a solution on `g'`. -/
theorem Visits.within {a a' : Analysis} {g g' : Graph} (h : a.Within g a' g') {host : Host σ ε}
    (hh : host.NeverFails) (hg : g.WellFormed) {c : Session σ}
    {t : Progress FactSet (Session σ)} (ht : Visits (a.problem host) g c t)
    {sol : Solution FactSet} (hsol : a'.Solves g' sol) (n : Vertex) :
    (t.solution.before.get n).members ⊆ (sol.before.get n).members ∧
      (t.solution.after.get n).members ⊆ (sol.after.get n).members := by
  have hfacts := Visits.facts hh hg
    (P := fun n f => (sol.before.get n).has f = true)
    (Q := fun n f => g.Reached n ∧ (sol.after.get n).has f = true) ?_ ?_ ht n
  · exact ⟨fun f hf => (hfacts f).1 hf, fun f hf => ((hfacts f).2 hf).2⟩
  · rintro m n f hedge ⟨hm, hf⟩
    exact (hsol.arrive (h.reached hm) (h.edge m n hm hedge) hf).2
  · intro n hn x hx f hf
    refine ⟨hn, (hsol.has_after n (h.reached hn) f).2 ?_⟩
    rw [h.flowAt_eq hn] at hf
    exact a'.flowAt_monotone n x _ hx hf

namespace Analysis

/-- The pairs of an origin and a site that a run reports. -/
def leaks (a : Analysis) (host : Host σ ε) (g : Graph) (s : Session σ) : Set (Vertex × Vertex) :=
  {r | ∃ l ∈ a.reports host g s, (l.origin, l.site) = r}

/-- What a run on `g` comes to, without the run: a solution that every run which meets more
contains, and the leaks that it gives. -/
structure Result (a : Analysis) (g : Graph) (sol : Solution FactSet)
    (leaks : Set (Vertex × Vertex)) : Prop where
  solves : a.Solves g sol
  least : ∀ a' g' sol', a.Within g a' g' → a'.Solves g' sol' → ∀ n,
    (sol.before.get n).members ⊆ (sol'.before.get n).members ∧
      (sol.after.get n).members ⊆ (sol'.after.get n).members
  mem_leaks : ∀ o n, (o, n) ∈ leaks ↔ g.Reached n ∧
    ∃ v, LetsEscape (a.statement n) v ∧ (sol.before.get n).has ⟨o, v⟩ = true

/-- A run on a graph without defects, with a host that never fails, has such a result. -/
theorem run_result (a : Analysis) {host : Host σ ε} (hh : host.NeverFails) {g : Graph}
    (hg : g.defect? = none) (s : Session σ) :
    ∃ sol, (a.run host g s).1 = .ok sol ∧ a.Result g sol (a.leaks host g s) := by
  have hwf := Graph.WellFormed.of_defect? hg
  obtain ⟨t, ht, hqueue, hrun, -, hmem⟩ := a.reports_ok hh hg s
  refine ⟨t.solution, hrun, Solves.of_visits hh.recorded hwf ht hqueue,
    fun a' g' sol' hin hsol' => Visits.within hin hh.recorded hwf ht hsol', fun o n => ?_⟩
  rw [← Visits.mem_reported hh.recorded hwf ht hqueue]
  constructor
  · rintro ⟨l, hl, heq⟩
    cases heq
    exact ((hmem l).1 hl).2
  · intro hr
    exact ⟨⟨a.proc, o, n⟩, (hmem _).2 ⟨rfl, hr⟩, rfl⟩

/-- Where a run meets more, its result has more facts and more leaks. -/
theorem Result.mono {a a' : Analysis} {g g' : Graph} {sol sol' : Solution FactSet}
    {leaks leaks' : Set (Vertex × Vertex)} (hin : a.Within g a' g') (h : a.Result g sol leaks)
    (h' : a'.Result g' sol' leaks') :
    (∀ n, (sol.before.get n).members ⊆ (sol'.before.get n).members ∧
      (sol.after.get n).members ⊆ (sol'.after.get n).members) ∧ leaks ⊆ leaks' := by
  have hfacts := h.least a' g' sol' hin h'.solves
  refine ⟨hfacts, ?_⟩
  rintro ⟨o, n⟩ hr
  obtain ⟨hn, v, hesc, hf⟩ := (h.mem_leaks o n).1 hr
  rw [hin.statement n hn] at hesc
  exact (h'.mem_leaks o n).2 ⟨hin.reached hn, v, hesc, (hfacts n).1 hf⟩

/-- **More edges, more facts and leaks; the order of a graph does not show.** Take two graphs
without defects, the entry, vertices and edges of the first among those of the second, with the same
secret operation and the same statement at every vertex of the first, and hosts that never fail.
Then the facts that the first run returns for a vertex are among those of the second, and so are
the reported leaks. If moreover every edge of the second graph is one of the first, the facts and
the leaks are the same, whatever the order of vertices and edges. -/
theorem run_mono_edges (a a' : Analysis) {g g' : Graph} {host : Host σ ε} {host' : Host τ δ}
    (hsecret : a.secret = a'.secret) (hstatement : ∀ n ∈ g.nodes, a.statement n = a'.statement n)
    (hsub : g.Subgraph g') (hg : g.defect? = none) (hg' : g'.defect? = none)
    (hh : host.NeverFails) (hh' : host'.NeverFails) (s : Session σ) (s' : Session τ) :
    ∃ sol sol', (a.run host g s).1 = .ok sol ∧ (a'.run host' g' s').1 = .ok sol' ∧
      (∀ n, (sol.before.get n).members ⊆ (sol'.before.get n).members ∧
        (sol.after.get n).members ⊆ (sol'.after.get n).members) ∧
      a.leaks host g s ⊆ a'.leaks host' g' s' ∧
      ((∀ m ∈ g'.nodes, ∀ n ∈ g'.succs m, m ∈ g.nodes ∧ n ∈ g.succs m) →
        (∀ n, (sol.before.get n).members = (sol'.before.get n).members ∧
          (sol.after.get n).members = (sol'.after.get n).members) ∧
        a.leaks host g s = a'.leaks host' g' s') := by
  have hwf := Graph.WellFormed.of_defect? hg
  have hwf' := Graph.WellFormed.of_defect? hg'
  obtain ⟨sol, hrun, hres⟩ := a.run_result hh hg s
  obtain ⟨sol', hrun', hres'⟩ := a'.run_result hh' hg' s'
  obtain ⟨hfacts, hleaks⟩ :=
    Result.mono (.of_subgraph hwf hsub hsecret hstatement) hres hres'
  refine ⟨sol, sol', hrun, hrun', hfacts, hleaks, fun hedges => ?_⟩
  obtain ⟨hfacts', hleaks'⟩ :=
    Result.mono (.of_same_edges hwf hwf' hsub hsecret hstatement hedges) hres' hres
  refine ⟨fun n => ⟨?_, ?_⟩, hleaks.antisymm hleaks'⟩
  · exact (hfacts n).1.antisymm (hfacts' n).1
  · exact (hfacts n).2.antisymm (hfacts' n).2

end Analysis

namespace Sample

/-- The graph of `relay` with its edges added the other way around, and a vertex that no edge leads
to. -/
def relayReversed : Graph :=
  ((Adjacency.ofEntry (vertex 0)).addEdge (vertex 2) (vertex 3) |>.addEdge (vertex 2) (vertex 1)
    |>.addNode (vertex 9) |>.addEdge (vertex 1) (vertex 2) |>.addEdge (vertex 0) (vertex 1)).toGraph

/-- The graph of `relay` with a way around the loop. -/
def relayShortcut : Graph :=
  ((Adjacency.ofEntry (vertex 0)).addEdge (vertex 0) (vertex 3) |>.addEdge (vertex 0) (vertex 1)
    |>.addEdge (vertex 1) (vertex 2) |>.addEdge (vertex 2) (vertex 1)
    |>.addEdge (vertex 2) (vertex 3)).toGraph

/-- The leak of `relay` is found in whatever order the edges were added, and is not lost when there
is a way around the loop. -/
theorem relay_mono_edges :
    (vertex 1, vertex 3) ∈ relay.leaks keeper relayGraph ⟨[], []⟩ ∧
    relay.leaks keeper relayGraph ⟨[], []⟩ = relay.leaks keeper relayReversed ⟨[], []⟩ ∧
    relay.leaks keeper relayGraph ⟨[], []⟩ ⊆ relay.leaks keeper relayShortcut ⟨[], []⟩ := by
  have hreports : relay.reports keeper relayGraph ⟨[], []⟩ =
      [⟨relay.proc, vertex 1, vertex 3⟩] := by decide +kernel
  have hreversed : relayGraph.Subgraph relayReversed := ⟨rfl, by decide, by decide⟩
  have hshortcut : relayGraph.Subgraph relayShortcut := ⟨rfl, by decide, by decide⟩
  obtain ⟨_, _, _, _, _, _, hsame⟩ := relay.run_mono_edges relay rfl (fun _ _ => rfl) hreversed
    (by decide) (by decide) keeper_neverFails keeper_neverFails ⟨[], []⟩ ⟨[], []⟩
  obtain ⟨_, _, _, _, _, hmore, _⟩ := relay.run_mono_edges relay rfl (fun _ _ => rfl) hshortcut
    (by decide) (by decide) keeper_neverFails keeper_neverFails ⟨[], []⟩ ⟨[], []⟩
  refine ⟨⟨⟨relay.proc, vertex 1, vertex 3⟩, ?_, rfl⟩, (hsame (by decide)).2, hmore⟩
  rw [hreports]
  exact List.mem_singleton_self _

end Sample

end LeakCheck.Propagation
