import LeakCheck.Proofs.Dataflow.Growth
import LeakCheck.Proofs.Propagation.Flow
import LeakCheck.Propagation.Analysis
import Mathlib.Data.Set.Card
import Mathlib.Order.CompletePartialOrder

/-!
# Runs of the propagation

The propagation is a dataflow problem whose values mean sets of facts. This module gives what every
statement about its results starts from: with a host that never fails a run on a graph without
defects always has a solution (`Analysis.run_ok`), that solution satisfies the equations of the
problem, read as statements about single facts (`Analysis.Solves`), and what is kept along edges and
through statements holds of every fact that ever arises (`Visits.facts`).

A host that fails cuts a run short and does nothing else to it: up to there the run is one of the
lenient host (`Analysis.restricts_lenient`), so what holds in every state with a host that never
fails holds with any.
-/

namespace LeakCheck.Propagation

open Dataflow

variable {σ ε : Type}

/-- No report fails. -/
def Host.NeverFails (host : Host σ ε) : Prop := ∀ leak c, (host.report leak c).1 = none

/-! ## The transfer -/

namespace Session

/-- Reports the secrets of the given origins at one site, whatever becomes of the reports. -/
def reportEach (host : Host σ ε) (proc : Procedure) (site : Vertex) (origins : List Vertex)
    (s : Session σ) : Session σ :=
  origins.foldl (fun s origin => (s.report host proc origin site).2) s

theorem report_fst {host : Host σ ε} (hh : host.NeverFails) (proc : Procedure)
    (origin site : Vertex) (s : Session σ) : (s.report host proc origin site).1 = none := by
  unfold report
  split
  · rfl
  · exact Option.map_eq_none_iff.2 (hh _ _)

/-- With a host that never fails all secrets are reported. -/
theorem reportAll_eq {host : Host σ ε} (hh : host.NeverFails) (proc : Procedure) (site : Vertex)
    (origins : List Vertex) (s : Session σ) :
    s.reportAll host proc site origins = (none, s.reportEach host proc site origins) := by
  induction origins generalizing s with
  | nil => rfl
  | cons origin rest ih =>
    have hnone := s.report_fst hh proc origin site
    rw [reportAll]
    split
    · next e s' heq =>
      rw [heq] at hnone
      cases hnone
    · next s' heq =>
      rw [ih, reportEach, reportEach, List.foldl_cons, heq]

end Session

namespace Analysis

/-- The facts that leave `n` when `x` enters it. -/
def flowAt (a : Analysis) (n : Vertex) (x : FactSet) : FactSet := flow a.secret n (a.statement n) x

/-- With a host that never fails a transfer reports every secret that escapes and succeeds. -/
theorem transfer_eq {host : Host σ ε} (hh : host.NeverFails) (a : Analysis) (n : Vertex)
    (x : FactSet) (s : Session σ) :
    a.transfer host n x s =
      (.ok (a.flowAt n x), (s.note host (.transfer n (a.statement n))).reportEach host a.proc n
        (escapingOrigins (a.statement n) x)) := by
  rw [transfer, Session.reportAll_eq hh]
  rfl

theorem problem_computes {host : Host σ ε} (hh : host.NeverFails) (a : Analysis) :
    (a.problem host).Computes a.flowAt := by
  intro n x s
  show (a.transfer host n x s).1 = _
  rw [transfer_eq hh]

end Analysis

/-! ## Hosts that fail -/

/-- The same host, except that its reports never fail. -/
def Host.lenient (host : Host σ ε) : Host σ ε where
  note := host.note
  report leak c := (none, (host.report leak c).2)

theorem Host.lenient_neverFails (host : Host σ ε) : host.lenient.NeverFails := fun _ _ => rfl

namespace Session

theorem report_lenient (host : Host σ ε) (proc : Procedure) (origin site : Vertex)
    (s : Session σ) :
    s.report host.lenient proc origin site = (none, (s.report host proc origin site).2) := by
  unfold report
  split
  · rfl
  · rfl

/-- Reports that do not fail are the same to a lenient host. -/
theorem reportAll_lenient {host : Host σ ε} {proc : Procedure} {site : Vertex}
    {origins : List Vertex} {s s' : Session σ}
    (h : s.reportAll host proc site origins = (none, s')) :
    s.reportAll host.lenient proc site origins = (none, s') := by
  induction origins generalizing s with
  | nil => exact h
  | cons origin rest ih =>
    rw [reportAll] at h
    rw [reportAll, report_lenient]
    split at h
    · cases h
    · next s₁ heq =>
      rw [heq]
      exact ih h

end Session

namespace Analysis

/-- What does not fail is the same to a lenient host. -/
theorem restricts_lenient (a : Analysis) (host : Host σ ε) :
    (a.problem host).Restricts (a.problem host.lenient) where
  lattice := rfl
  transfer n x s y s' h := by
    change a.transfer host n x s = (.ok y, s') at h
    show a.transfer host.lenient n x s = (.ok y, s')
    have hnote : s.note host.lenient (.transfer n (a.statement n)) =
        s.note host (.transfer n (a.statement n)) := rfl
    simp only [transfer] at h ⊢
    split at h
    · cases h
    · next s₁ hall =>
      cases h
      rw [hnote, Session.reportAll_lenient hall]
  onChange := rfl

/-- The operations on sets of facts are those of sets. -/
theorem lattice_models : lattice.Models FactSet.members where
  bottom := FactSet.members_empty
  merge := FactSet.members_union
  equal := FactSet.equal_iff

/-- The more facts enter a vertex, the more leave it. -/
theorem flowAt_monotone (a : Analysis) : MonotoneIn FactSet.members a.flowAt :=
  fun n _ _ h => flow_mono h a.secret n (a.statement n)

/-- What enters a vertex are the facts that leave its predecessors. -/
theorem has_inflow (a : Analysis) (host : Host σ ε) (g : Graph) (after : Assignment FactSet)
    (n : Vertex) (f : Fact) :
    (inflow (a.problem host) g after n).has f = true ↔
      ∃ m ∈ g.preds n, (after.get m).has f = true := by
  have hL : (a.problem host).lattice.Models FactSet.members := lattice_models
  constructor
  · have hle : (inflow (a.problem host) g after n).members ≤
        {f | ∃ m ∈ g.preds n, (after.get m).has f = true} := by
      refine (inflow_le_iff hL after n _).2 ⟨fun _ f hf => ?_, fun m hm f hf => ⟨m, hm, hf⟩⟩
      cases hf
    exact fun hf => hle hf
  · rintro ⟨m, hm, hf⟩
    exact ((inflow_le_iff hL after n _).1 le_rfl).2 m hm hf

/-! ## The facts that can arise -/

/-- The facts that the reachable statements could establish, one for each that defines a
variable. -/
def possible (a : Analysis) (g : Graph) : List Fact :=
  g.reachable.filterMap fun n => (defined? (a.statement n)).map (Fact.mk n)

theorem length_possible (a : Analysis) (g : Graph) :
    (a.possible g).length = a.definitions g := by
  rw [possible, definitions, List.length_filterMap_eq_countP]
  simp only [Option.isSome_map]

theorem mem_possible {a : Analysis} {g : Graph} {f : Fact} :
    f ∈ a.possible g ↔
      f.origin ∈ g.reachable ∧ defined? (a.statement f.origin) = some f.var := by
  rw [possible, List.mem_filterMap]
  constructor
  · rintro ⟨n, hn, h⟩
    obtain ⟨v, hv, rfl⟩ := Option.map_eq_some_iff.1 h
    exact ⟨hn, hv⟩
  · rintro ⟨hn, hv⟩
    exact ⟨f.origin, hn, by rw [hv]; rfl⟩

/-- Reachable statements establish only possible facts. -/
theorem flowAt_possible {a : Analysis} {g : Graph} {n : Vertex} (hn : n ∈ g.reachable)
    {x : FactSet} (hx : ∀ f, x.has f = true → f ∈ a.possible g) :
    ∀ f, (a.flowAt n x).has f = true → f ∈ a.possible g := by
  intro f hf
  rcases (has_flow _ _ _ _ _).1 hf with ⟨hold, -⟩ | ⟨rfl, hv, hest⟩
  · exact hx f hold
  · exact mem_possible.2 ⟨hn, defined?_eq_some.2 ⟨hv, hest.exists_assign⟩⟩

end Analysis

/-- An ascending chain of sets of listed facts is no longer than the list. -/
theorem Climb.le_length {facts : List Fact} {k : Nat} {b : Set Fact}
    (h : Climb (fun b => b ⊆ {f | f ∈ facts}) k b) : k ≤ facts.length := by
  have hfin : {f | f ∈ facts}.Finite := facts.finite_toSet
  have hcard : k ≤ b.ncard ∧ b ⊆ {f | f ∈ facts} := by
    induction h with
    | bot => exact ⟨Nat.zero_le _, Set.empty_subset _⟩
    | step _ hlt hgood ih =>
      have hlt' := Set.ncard_lt_ncard hlt (hfin.subset hgood)
      exact ⟨by omega, hgood⟩
  have hle := Set.ncard_le_ncard hcard.2 hfin
  have hlen : {f | f ∈ facts}.ncard ≤ facts.length := by
    rw [← List.coe_toFinset, Set.ncard_coe_finset]
    exact facts.toFinset_card_le
  omega

/-! ## The solution -/

/-- **What is kept along edges and through statements holds of every fact.** `P n` is kept for the
facts that enter `n` and `Q n` for those that leave it. -/
theorem Visits.facts {a : Analysis} {host : Host σ ε} (hh : host.NeverFails) {g : Graph}
    (hg : g.WellFormed) {P Q : Vertex → Fact → Prop}
    (hedge : ∀ m n f, g.Edge m n → Q m f → P n f)
    (hflow : ∀ n, g.Reached n → ∀ x : FactSet, (∀ f, x.has f = true → P n f) →
      ∀ f, (a.flowAt n x).has f = true → Q n f)
    {c : Session σ} {t : Progress FactSet (Session σ)} (h : Visits (a.problem host) g c t)
    (n : Vertex) (f : Fact) :
    ((t.solution.before.get n).has f = true → P n f) ∧
      ((t.solution.after.get n).has f = true → Q n f) := by
  have hvalues := Visits.values (a.problem_computes hh) hg
    (P := fun n x => ∀ f, x.has f = true → P n f) (Q := fun n x => ∀ f, x.has f = true → Q n f)
    (fun _ _ hf => nomatch hf) (fun _ _ hf => nomatch hf) ?_ ?_ h n
  · exact ⟨hvalues.1 f, hvalues.2 f⟩
  · intro n hn after hafter f hf
    obtain ⟨m, hm, hmf⟩ := (a.has_inflow host g after n f).1 hf
    have hn' := hg.reachable_subset hn
    have hedge' : g.Edge m n := (hg.mem_succs_iff m (hg.preds_mem n hn' m hm) n hn').2 hm
    exact hedge m n f hedge' (hafter m f hmf)
  · exact fun n hn => hflow n (hg.mem_reachable_iff.1 hn)

/-- **Only possible facts arise**, whether the host fails at some time or not. -/
theorem Visits.possible {a : Analysis} {host : Host σ ε} {g : Graph} (hg : g.WellFormed)
    {c : Session σ} {t : Progress FactSet (Session σ)} (h : Visits (a.problem host) g c t)
    (n : Vertex) (f : Fact) :
    ((t.solution.before.get n).has f = true → f ∈ a.possible g) ∧
      ((t.solution.after.get n).has f = true → f ∈ a.possible g) :=
  Visits.facts host.lenient_neverFails hg (P := fun _ f => f ∈ a.possible g)
    (Q := fun _ f => f ∈ a.possible g) (fun _ _ _ _ hf => hf)
    (fun _ hn _ hx => Analysis.flowAt_possible (hg.mem_reachable_iff.2 hn) hx)
    (h.of_restricts (a.restricts_lenient host)) n f

/-- Only possible facts enter the next evaluation. -/
theorem Visits.inflow_possible {a : Analysis} {host : Host σ ε} {g : Graph} (hg : g.WellFormed)
    {c : Session σ} {t : Progress FactSet (Session σ)} (h : Visits (a.problem host) g c t)
    (n : Vertex) (f : Fact)
    (hf : (inflow (a.problem host) g t.solution.after n).has f = true) : f ∈ a.possible g := by
  obtain ⟨m, -, hm⟩ := (a.has_inflow host g _ n f).1 hf
  exact (Visits.possible hg h m f).2 hm

namespace Analysis

/-- A solution of the propagation, one fact at a time: the facts that enter a vertex are those that
leave a vertex with an edge to it, those that leave it are what its statement makes of them, and
there are none where no path leads. -/
structure Solves (a : Analysis) (g : Graph) (sol : Solution FactSet) : Prop where
  has_before : ∀ n, g.Reached n → ∀ f, (sol.before.get n).has f = true ↔
    ∃ m, g.Reached m ∧ g.Edge m n ∧ (sol.after.get m).has f = true
  has_after : ∀ n, g.Reached n → ∀ f, (sol.after.get n).has f = true ↔
    (a.flowAt n (sol.before.get n)).has f = true
  unreached : ∀ n, ¬ g.Reached n → sol.before.get n = .empty ∧ sol.after.get n = .empty

section
variable {a : Analysis} {g : Graph} {sol : Solution FactSet} {m n : Vertex} {f : Fact}

/-- What leaves a vertex arrives where its edges lead. -/
theorem Solves.arrive (h : a.Solves g sol) (hm : g.Reached m) (hedge : g.Edge m n)
    (hf : (sol.after.get m).has f = true) :
    g.Reached n ∧ (sol.before.get n).has f = true :=
  ⟨hm.tail hedge, (h.has_before n (hm.tail hedge) f).2 ⟨m, hm, hedge, hf⟩⟩

/-- What enters a vertex leaves it, if the statement does not overwrite the variable. -/
theorem Solves.pass (h : a.Solves g sol) (hn : g.Reached n)
    (hf : (sol.before.get n).has f = true)
    (hkeep : ¬ Overwrites a.secret (a.statement n) f.var) : (sol.after.get n).has f = true :=
  (h.has_after n hn f).2 ((has_flow _ _ _ _ _).2 (.inl ⟨hf, fun hover => hkeep hover.2⟩))

/-- What a statement establishes leaves it. -/
theorem Solves.establish (h : a.Solves g sol) (hn : g.Reached n) {v : Var}
    (hv : v.isValid = true)
    (hest : Establishes a.secret (a.statement n) (sol.before.get n) v) :
    (sol.after.get n).has ⟨n, v⟩ = true :=
  (h.has_after n hn _).2 ((has_flow _ _ _ _ _).2 (.inr ⟨rfl, hv, hest⟩))

end

/-- The state in which a run begins to solve. -/
def opening (host : Host σ ε) (g : Graph) (s : Session σ) : Session σ :=
  Session.note host (.analyzing g.nodes.length) { s with reported := [] }

/-- The last state of a solver holds a solution. -/
theorem Solves.of_visits {a : Analysis} {host : Host σ ε} (hh : host.NeverFails) {g : Graph}
    (hg : g.WellFormed) {c : Session σ} {t : Progress FactSet (Session σ)}
    (h : Visits (a.problem host) g c t) (hqueue : t.queue = []) : a.Solves g t.solution := by
  have hset := Visits.settled (a.problem_computes hh) hg h
  have hunreached : ∀ n, ¬ g.Reached n →
      t.solution.before.get n = .empty ∧ t.solution.after.get n = .empty :=
    fun n hn => hset.untouched n fun hmem => hn (hg.mem_reachable_iff.1 hmem)
  have hsettled := fun n (hn : g.Reached n) =>
    hset.settled n (hg.mem_reachable_iff.2 hn) (by simp [hqueue])
  refine ⟨fun n hn f => ?_, fun n hn f => ?_, hunreached⟩
  · rw [(hsettled n hn).1, has_inflow]
    have hn' := hg.mem_nodes_of_reached hn
    constructor
    · rintro ⟨m, hm, hf⟩
      have hreached : g.Reached m := by
        by_contra hno
        rw [(hunreached m hno).2] at hf
        cases hf
      exact ⟨m, hreached, (hg.mem_succs_iff m (hg.preds_mem n hn' m hm) n hn').2 hm, hf⟩
    · rintro ⟨m, hm, hedge, hf⟩
      exact ⟨m, (hg.mem_succs_iff m (hg.mem_nodes_of_reached hm) n hn').1 hedge, hf⟩
  · rcases (hsettled n hn).2 with heq | heq
    · rw [heq]
    · rw [← FactSet.mem_members, ← FactSet.mem_members, (FactSet.equal_iff _ _).1 heq]

/-- **A run never uses up its evaluations**, whatever the host does. -/
theorem solve_ne_exhausted (a : Analysis) (host : Host σ ε) (g : Graph) (c : Session σ) :
    (solve (a.problem host) g (evaluationBound g (a.definitions g)) c).1 ≠ .error .exhausted := by
  cases hg : g.defect? with
  | some d =>
    rw [solve, hg]
    intro h
    cases h
  | none =>
    have hwf := Graph.WellFormed.of_defect? hg
    rw [← a.length_possible g]
    refine Dataflow.solve_ne_exhausted (a.restricts_lenient host)
      (a.problem_computes host.lenient_neverFails) lattice_models a.flowAt_monotone ?_
      (fun k b hk => Climb.le_length hk) le_rfl
    intro t ht n hn f hf
    exact flowAt_possible hn (Visits.inflow_possible hwf ht n) f hf

/-- A run is the solving of its problem, and a closing note if that succeeds. -/
theorem run_eq (a : Analysis) (host : Host σ ε) (g : Graph) (s : Session σ) :
    a.run host g s =
      match solve (a.problem host) g (evaluationBound g (a.definitions g)) (opening host g s) with
      | (.error e, s) => (.error ⟨a.proc, e⟩, s)
      | (.ok sol, s) => (.ok sol, s.note host (.fixpoint sol.evaluations s.reported.length)) :=
  rfl

/-- How a run on a graph without defects ends, with the states of the solver behind it: nothing
waits any more, or a transfer fails. -/
theorem run_ends (a : Analysis) (host : Host σ ε) {g : Graph} (hg : g.defect? = none)
    (s : Session σ) :
    (∃ t, Visits (a.problem host) g (opening host g s) t ∧ t.queue = [] ∧
      a.run host g s = (.ok t.solution, t.client.note host
        (.fixpoint t.solution.evaluations t.client.reported.length))) ∨
    ∃ t n rest cause c, Visits (a.problem host) g (opening host g s) t ∧ t.queue = n :: rest ∧
      a.transfer host n (inflow (a.problem host) g t.solution.after n) t.client =
        (.error cause, c) ∧
      a.run host g s = (.error ⟨a.proc, .transfer n cause⟩, c) := by
  have hne := a.solve_ne_exhausted host g (opening host g s)
  have hends := iterate_ends (a.problem host) g (evaluationBound g (a.definitions g))
    (start (a.problem host) g (opening host g s))
  rw [run_eq]
  simp only [solve, hg] at hne ⊢
  generalize iterate (a.problem host) g (evaluationBound g (a.definitions g))
    (start (a.problem host) g (opening host g s)) = r at hne hends ⊢
  cases hends with
  | solved hrun hqueue => exact .inl ⟨_, hrun, hqueue, rfl⟩
  | failed hrun hqueue ht => exact .inr ⟨_, _, _, _, _, hrun, hqueue, ht, rfl⟩
  | exhausted => exact absurd rfl hne

/-- **A run has a solution.** On a graph without defects, with a host that never fails, a run ends
within the evaluations that it allows itself: it succeeds in the last state of a solver, in which
nothing waits. -/
theorem run_ok (a : Analysis) {host : Host σ ε} (hh : host.NeverFails) {g : Graph}
    (hg : g.defect? = none) (s : Session σ) :
    ∃ t, Visits (a.problem host) g (opening host g s) t ∧ t.queue = [] ∧
      a.run host g s = (.ok t.solution, t.client.note host
        (.fixpoint t.solution.evaluations t.client.reported.length)) := by
  rcases a.run_ends host hg s with hok | ⟨t, n, rest, cause, c, -, -, hfail, -⟩
  · exact hok
  · rw [transfer_eq hh] at hfail
    cases hfail

end Analysis

/-! ## A procedure with a loop -/

namespace Sample

/-- The vertex with a number. -/
def vertex (id : Nat) : Vertex := some ⟨id, "", 0⟩

/-- The variable that receives the secret. -/
def x : Var := ⟨.frame, some (.value 0 "x")⟩

/-- The variable that receives the copy. -/
def y : Var := ⟨.frame, some (.value 1 "y")⟩

/-- The secret `x` is obtained; in a loop it is copied to `y` and overwritten; `y` is given back. -/
def relay : Analysis where
  proc := default
  secret := defaultSecret
  statement n :=
    if n = vertex 0 then .assign [x] [.staticCall "GetSecret" []]
    else if n = vertex 1 then .assign [y] [.read x]
    else if n = vertex 2 then .assign [x] [.constant "none"]
    else .giveBack [.read y]

/-- The vertices `1` and `2` are the loop between the first and the last one. -/
def relayGraph : Graph :=
  ((Adjacency.ofEntry (vertex 0)).addEdge (vertex 0) (vertex 1) |>.addEdge (vertex 1) (vertex 2)
    |>.addEdge (vertex 2) (vertex 1) |>.addEdge (vertex 2) (vertex 3)).toGraph

/-- A host that keeps the leaks that it is given. -/
def keeper : Host (List Leak) Empty where
  note _ leaks := leaks
  report leak leaks := (none, leaks ++ [leak])

theorem keeper_neverFails : keeper.NeverFails := fun _ _ => rfl

end Sample

end LeakCheck.Propagation
