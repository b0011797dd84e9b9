import LeakCheck.Proofs.Propagation.Reports

/-!
# Witnesses of leaks

A leak has a witness that mentions neither the solver nor its sets of facts: a chain of assignments
that begins with a call of the secret operation, in which each copies the variable of the one before
it, and paths between them on which that variable is not overwritten. Every fact that a run ever
stores has such a chain (`Visits.chain`), and a solution has the fact of every chain
(`Solves.of_chain`), so that the reported leaks are those with a witness (`reports_iff_chain`).
-/

namespace LeakCheck.Propagation

open Dataflow

variable {σ ε : Type}

namespace Analysis

/-- A path of at least one edge from `m` to `n`; no vertex strictly between its ends overwrites
`v`. -/
def Carries (a : Analysis) (g : Graph) (v : Var) (m n : Vertex) : Prop :=
  ∃ inner : List Vertex, (m :: inner ++ [n]).IsChain g.Edge ∧
    ∀ k ∈ inner, ¬ Overwrites a.secret (a.statement k) v

/-- `Chain o v`: a chain of assignments leads from a secret to the variable `v`, which `o` assigns
to. -/
inductive Chain (a : Analysis) (g : Graph) : Vertex → Var → Prop
  /-- The first assignment obtains the secret. -/
  | source {o : Vertex} {v : Var} (hv : v.isValid = true) (ho : g.Reached o)
      (hsecret : Obtains a.secret (a.statement o) v) : Chain a g o v
  /-- Every other one copies the variable of the one before it. -/
  | copy {o o' : Vertex} {v v' : Var} (h : Chain a g o v) (hpath : a.Carries g v o o')
      (hv : v'.isValid = true) (hcopy : Assigns (a.statement o') v' (.read v)) : Chain a g o' v'

section
variable {a : Analysis} {g : Graph} {v : Var} {k m n o : Vertex}

theorem Chain.isValid (h : a.Chain g o v) : v.isValid = true := by
  cases h with
  | source hv => exact hv
  | copy _ _ hv => exact hv

theorem Carries.edge (h : g.Edge m n) : a.Carries g v m n :=
  ⟨[], by simpa using h, fun k hk => nomatch hk⟩

/-- A path goes on past a vertex that does not overwrite the variable. -/
theorem Carries.tail (h : a.Carries g v m k) (hk : ¬ Overwrites a.secret (a.statement k) v)
    (hedge : g.Edge k n) : a.Carries g v m n := by
  obtain ⟨inner, hchain, hclear⟩ := h
  refine ⟨inner ++ [k], ?_, fun j hj => ?_⟩
  · rw [← List.cons_append]
    exact Graph.isChain_concat.2 ⟨hchain, hedge⟩
  · rcases List.mem_append.1 hj with hj | hj
    · exact hclear j hj
    · cases List.mem_singleton.1 hj
      exact hk

end

end Analysis

/-! ## From facts to chains -/

/-- **Every fact has a chain.** What a solver holds at any time about a vertex is the fact of a
chain, whose last variable is carried to that vertex. -/
theorem Visits.chain {a : Analysis} {host : Host σ ε} (hh : host.NeverFails) {g : Graph}
    (hg : g.WellFormed) {c : Session σ} {t : Progress FactSet (Session σ)}
    (h : Visits (a.problem host) g c t) {n : Vertex} {f : Fact}
    (hf : (t.solution.before.get n).has f = true) :
    a.Chain g f.origin f.var ∧ a.Carries g f.var f.origin n := by
  refine (Visits.facts hh hg (P := fun n f => a.Chain g f.origin f.var ∧
      a.Carries g f.var f.origin n)
    (Q := fun n f => a.Chain g f.origin f.var ∧ (f.origin = n ∨
      a.Carries g f.var f.origin n ∧ ¬ Overwrites a.secret (a.statement n) f.var))
    ?_ ?_ h n f).1 hf
  · rintro m n f hedge ⟨hchain, rfl | ⟨hpath, hclear⟩⟩
    · exact ⟨hchain, .edge hedge⟩
    · exact ⟨hchain, hpath.tail hclear hedge⟩
  · intro n hn x hx f hf
    -- a fact that leaves `n` passed through it, or `n` begins or prolongs a chain
    rcases (has_flow _ _ _ _ _).1 hf with ⟨hold, hkeep⟩ | ⟨rfl, hv, hobt | ⟨w, hcopy, hw⟩⟩
    · obtain ⟨hchain, hpath⟩ := hx f hold
      exact ⟨hchain, .inr ⟨hpath, fun hover => hkeep ⟨hchain.isValid, hover⟩⟩⟩
    · exact ⟨.source hv hn hobt, .inl rfl⟩
    · obtain ⟨e, he, rfl⟩ := FactSet.tainted_iff.1 hw
      obtain ⟨hchain, hpath⟩ := hx e he
      exact ⟨.copy hchain hpath hv hcopy, .inl rfl⟩

/-! ## From chains to facts -/

namespace Analysis

section
variable {a : Analysis} {g : Graph} {sol : Solution FactSet} {v : Var} {m n o : Vertex}

/-- A fact arrives wherever its variable is carried. -/
theorem Solves.carry (h : a.Solves g sol) {f : Fact} (hm : g.Reached m)
    (hf : (sol.after.get m).has f = true) (hpath : a.Carries g f.var m n) :
    g.Reached n ∧ (sol.before.get n).has f = true := by
  obtain ⟨inner, hchain, hclear⟩ := hpath
  induction inner using List.reverseRecOn generalizing n with
  | nil => exact h.arrive hm (by simpa using hchain) hf
  | append_singleton inner k ih =>
    rw [← List.cons_append] at hchain
    obtain ⟨hfirst, hedge⟩ := Graph.isChain_concat.1 hchain
    obtain ⟨hk, hbefore⟩ := ih hfirst fun j hj => hclear j (List.mem_append_left _ hj)
    have hkeep := hclear k (List.mem_append_right _ (List.mem_singleton_self k))
    exact h.arrive hk hedge (h.pass hk hbefore hkeep)

/-- **Every chain has its fact.** It leaves the last assignment of the chain. -/
theorem Solves.of_chain (h : a.Solves g sol) (hchain : a.Chain g o v) :
    g.Reached o ∧ (sol.after.get o).has ⟨o, v⟩ = true := by
  induction hchain with
  | source hv ho hsecret => exact ⟨ho, h.establish ho hv (.inl hsecret)⟩
  | @copy o o' v v' _ hpath hv hcopy ih =>
    obtain ⟨ho, hafter⟩ := ih
    obtain ⟨ho', hbefore⟩ := h.carry ho hafter hpath
    have htainted := FactSet.tainted_iff.2 ⟨⟨o, v⟩, hbefore, rfl⟩
    exact ⟨ho', h.establish ho' hv (.inr ⟨v, hcopy, htainted⟩)⟩

end

/-- **No leak is missed and none is invented.** On a graph without defects, with a host that never
fails, a run succeeds, and the leaks that it reports are those that have a witness: a chain of
assignments from a secret to a variable that the last of them assigns to, and a path on which that
variable is carried from there to a statement that lets it escape. -/
theorem reports_iff_chain (a : Analysis) {host : Host σ ε} (hh : host.NeverFails) {g : Graph}
    (hg : g.defect? = none) (s : Session σ) :
    (∃ sol, (a.run host g s).1 = .ok sol) ∧
      ∀ l, l ∈ a.reports host g s ↔ l.proc = a.proc ∧
        ∃ v, a.Chain g l.origin v ∧ a.Carries g v l.origin l.site ∧
          LetsEscape (a.statement l.site) v := by
  have hwf := Graph.WellFormed.of_defect? hg
  obtain ⟨t, ht, hqueue, hrun, -, hmem⟩ := a.reports_ok hh hg s
  have hsol := Solves.of_visits hh.recorded hwf ht hqueue
  refine ⟨⟨t.solution, hrun⟩, fun l => ?_⟩
  rw [hmem, Visits.mem_reported hh.recorded hwf ht hqueue]
  constructor
  · rintro ⟨hproc, -, v, hesc, hf⟩
    obtain ⟨hchain, hpath⟩ := Visits.chain hh.recorded hwf ht hf
    exact ⟨hproc, v, hchain, hpath, hesc⟩
  · rintro ⟨hproc, v, hchain, hpath, hesc⟩
    obtain ⟨ho, hafter⟩ := hsol.of_chain hchain
    obtain ⟨hn, hbefore⟩ := hsol.carry ho hafter hpath
    exact ⟨hproc, hn, v, hesc, hbefore⟩

end Analysis

namespace Sample

/-- The leak of `relay` has a witness: the chain of the secret `x` and its copy `y`, which is
carried out of the loop past the vertex that overwrites `x`. -/
theorem relay_reports_iff_chain :
    ⟨relay.proc, vertex 1, vertex 3⟩ ∈ relay.reports keeper relayGraph ⟨[], []⟩ := by
  have hsecret : Obtains relay.secret (relay.statement (vertex 0)) x :=
    ⟨_, ⟨[], _, rfl, List.mem_singleton_self _⟩, "GetSecret", [], rfl, by decide⟩
  have hcopy : Assigns (relay.statement (vertex 1)) y (.read x) :=
    ⟨[], _, rfl, List.mem_singleton_self _⟩
  have hclear : ¬ Overwrites relay.secret (relay.statement (vertex 2)) y := by
    rintro ⟨u, ⟨rest, uses, hs, -⟩, -⟩
    cases hs
  have hloop : relay.Carries relayGraph x (vertex 0) (vertex 1) := .edge (by decide)
  have hout : relay.Carries relayGraph y (vertex 1) (vertex 3) :=
    Analysis.Carries.tail (.edge (by decide)) hclear (by decide)
  have hchain : relay.Chain relayGraph (vertex 1) y :=
    .copy (.source (by decide) .refl hsecret) hloop (by decide) hcopy
  have hiff := relay.reports_iff_chain keeper_neverFails (g := relayGraph) (by decide) ⟨[], []⟩
  exact (hiff.2 _).2 ⟨rfl, y, hchain, hout, .result (List.mem_singleton_self _)⟩

end Sample

end LeakCheck.Propagation
