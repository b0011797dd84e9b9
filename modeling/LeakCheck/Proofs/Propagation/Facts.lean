import LeakCheck.Proofs.Dataflow.Changes
import LeakCheck.Proofs.Propagation.Reports

/-!
# The facts of a run

A run ends on every input, and at all times its facts are about variables that refer to something
and come from reachable statements that assign to them (`Analysis.Grounded`). Variables are not
bounded, so this is also what bounds the evaluations: a set holds at most one fact for each
reachable statement that defines a variable. `Analysis.run_ends_grounded` says so of every graph,
every assignment of statements and every host.

`effect` scans a statement only for a variable that refers to something and puts its facts together
without asking `Fact.make`. `guardedEffect` is the scan that is made for any statement, looks at the
variable at each use and asks; it is never refused and comes to the same (`guardedEffect_eq`).
-/

namespace LeakCheck.Propagation

open Dataflow

/-! ## The scan with its guards -/

/-- The variable that a scan is made for: the first one that is assigned to, or else the one that
refers to nothing. -/
def target : Statement → Var
  | .assign (d :: _) _ => if d.isValid then d else {}
  | _ => {}

/-- What a use does to a variable that may refer to nothing. The fact about it is refused if it
does. -/
def Effect.guardedUse (secret : String) (n : Vertex) (v : Var) (entering : FactSet) (e : Effect) :
    Value → Except Fact.InvalidVariable Effect
  | .staticCall method _ =>
    if v.isValid && Text.equalFold method secret then
      let e := e.clear entering v
      (Fact.make n v).map fun f => { e with gen := (e.gen.filter (·.var != v)).insert f }
    else .ok e
  | .constant _ => .ok (if v.isValid then e.clear entering v else e)
  | .read w =>
    if v.isValid && entering.tainted w then
      (Fact.make n v).map fun f => { e with gen := e.gen.insert f }
    else .ok e
  | _ => .ok e

/-- What a statement does to the facts, unless one that it establishes is refused. -/
def guardedEffect (secret : String) (n : Vertex) (s : Statement) (entering : FactSet) :
    Except Fact.InvalidVariable Effect :=
  (uses s).foldlM (Effect.guardedUse secret n (target s) entering) {}

/-- For a variable that refers to something, no use is refused. -/
theorem Effect.guardedUse_of_valid {v : Var} (hv : v.isValid = true) (secret : String) (n : Vertex)
    (x : FactSet) (e : Effect) (u : Value) :
    e.guardedUse secret n v x u = .ok (e.use secret n v x u) := by
  have hmake : Fact.make n v = .ok ⟨n, v⟩ := if_pos hv
  cases u with
  | staticCall method args =>
    by_cases hm : Text.equalFold method secret = true
    · simp [guardedUse, use, hv, hm, hmake, Except.map]
    · simp [guardedUse, use, hm]
  | read w =>
    by_cases hw : x.tainted w = true
    · simp [guardedUse, use, hv, hw, hmake, Except.map]
    · simp [guardedUse, use, hw]
  | constant text => simp [guardedUse, use, hv]
  | absent | virtualCall | unknown => rfl

/-- For a variable that refers to nothing, no use does anything. -/
theorem Effect.guardedUse_of_not_valid {v : Var} (hv : v.isValid = false) (secret : String)
    (n : Vertex) (x : FactSet) (e : Effect) (u : Value) :
    e.guardedUse secret n v x u = .ok e := by
  cases u with
  | staticCall | read | constant => simp [guardedUse, hv]
  | absent | virtualCall | unknown => rfl

/-- A scan is made for the variable that the statement defines, or else for one that refers to
nothing. -/
theorem target_eq (s : Statement) : target s = (defined? s).getD {} := by
  cases s with
  | assign defs us =>
    cases defs with
    | nil => rfl
    | cons d rest =>
      by_cases hd : d.isValid = true
      · simp [target, defined?, hd]
      · simp [target, defined?, hd]
  | absent | invoke | giveBack | other => rfl

/-- **No fact is refused**, and the scan with its guards does what the scan without them does. -/
theorem guardedEffect_eq (secret : String) (n : Vertex) (s : Statement) (x : FactSet) :
    guardedEffect secret n s x = .ok (effect secret n s x) := by
  rw [guardedEffect, target_eq, effect]
  cases hd : defined? s with
  | none =>
    have hnone : Effect.guardedUse secret n {} x = fun e _ => pure e := by
      funext e u
      exact Effect.guardedUse_of_not_valid rfl secret n x e u
    show (uses s).foldlM (Effect.guardedUse secret n {} x) {} = _
    rw [hnone, List.foldlM_pure, List.foldl_fixed]
    rfl
  | some v =>
    have hv := (defined?_eq_some.1 hd).1
    have huse : Effect.guardedUse secret n v x = fun e u => pure (e.use secret n v x u) := by
      funext e u
      exact Effect.guardedUse_of_valid hv secret n x e u
    show (uses s).foldlM (Effect.guardedUse secret n v x) {} = _
    rw [huse, List.foldlM_pure]
    rfl

variable {σ ε : Type}

namespace Analysis

/-! ## Grounded facts -/

/-- The facts of a set are about variables that refer to something, and each comes from a statement
that is reached and assigns to its variable first. No two of them have one origin. -/
structure Grounded (a : Analysis) (g : Graph) (x : FactSet) : Prop where
  isValid : ∀ f, x.has f = true → f.var.isValid = true
  origin : ∀ f, x.has f = true → g.Reached f.origin ∧
    ∃ rest uses, a.statement f.origin = .assign (f.var :: rest) uses
  unique : ∀ e f, x.has e = true → x.has f = true → e.origin = f.origin → e = f

/-- Possible facts are grounded. That no two have one origin follows, since a statement has one
first variable. -/
theorem Grounded.of_possible {a : Analysis} {g : Graph} (hg : g.WellFormed) {x : FactSet}
    (hx : ∀ f, x.has f = true → f ∈ a.possible g) : a.Grounded g x := by
  have hdef : ∀ f, x.has f = true → defined? (a.statement f.origin) = some f.var :=
    fun f hf => (mem_possible.1 (hx f hf)).2
  refine ⟨fun f hf => ?_, fun f hf => ?_, fun e f he hf heq => ?_⟩
  · exact (defined?_eq_some.1 (hdef f hf)).1
  · refine ⟨hg.mem_reachable_iff.1 (mem_possible.1 (hx f hf)).1, ?_⟩
    exact (defined?_eq_some.1 (hdef f hf)).2
  · have hvar : some e.var = some f.var := by
      rw [← hdef e he, ← hdef f hf, heq]
    obtain ⟨origin, v⟩ := e
    cases heq
    cases hvar
    rfl

/-- The calls that the solver makes during a run, in their order. -/
def calls (a : Analysis) (host : Host σ ε) (g : Graph) (s : Session σ) : List (Call FactSet) :=
  Dataflow.calls (a.problem host) g (evaluationBound g (a.definitions g)) (opening host g s)

/-- A run comes to what solving comes to. -/
theorem run_fst (a : Analysis) (host : Host σ ε) (g : Graph) (s : Session σ) :
    (a.run host g s).1 = (solve (a.problem host) g (evaluationBound g (a.definitions g))
      (opening host g s)).1.mapError (RunError.mk a.proc) := by
  unfold run opening
  dsimp only
  split
  · next e s' h =>
    rw [h]
    rfl
  · next sol s' h =>
    rw [h]
    rfl

theorem solve_of_run {a : Analysis} {host : Host σ ε} {g : Graph} {s : Session σ}
    {sol : Solution FactSet} (h : (a.run host g s).1 = .ok sol) :
    (solve (a.problem host) g (evaluationBound g (a.definitions g)) (opening host g s)).1 =
      .ok sol := by
  rw [run_fst] at h
  generalize (solve (a.problem host) g (evaluationBound g (a.definitions g))
    (opening host g s)).1 = r at h ⊢
  cases r with
  | error e => cases h
  | ok sol' =>
    cases h
    rfl

/-- On a malformed graph a run fails at once. -/
theorem run_of_defect (a : Analysis) (host : Host σ ε) {g : Graph} (s : Session σ)
    {d : Graph.Defect} (hd : g.defect? = some d) :
    a.run host g s = (.error ⟨a.proc, .invalid d⟩, opening host g s) := by
  unfold run opening solve
  simp only [hd]

/-- On a malformed graph a run makes no calls. -/
theorem calls_of_defect (a : Analysis) (host : Host σ ε) {g : Graph} (s : Session σ)
    {d : Graph.Defect} (hd : g.defect? = some d) : a.calls host g s = [] := by
  simp only [calls, Dataflow.calls, solve, hd]

/-- A run does not end for want of evaluations. -/
theorem cause_ne_exhausted {a : Analysis} {host : Host σ ε} {g : Graph} {s : Session σ}
    {e : RunError ε} (h : (a.run host g s).1 = .error e) : e.cause ≠ .exhausted := by
  have hne := a.solve_ne_exhausted host g (opening host g s)
  rw [run_fst] at h
  generalize (solve (a.problem host) g (evaluationBound g (a.definitions g))
    (opening host g s)).1 = r at h hne
  cases r with
  | ok sol => cases h
  | error cause =>
    cases h
    rintro rfl
    exact hne rfl

/-- What a run transfers through a vertex is grounded, and so is what comes out of it. -/
theorem grounded_of_mem_calls {a : Analysis} {host : Host σ ε} {g : Graph} {s : Session σ}
    {n : Vertex} {x : FactSet} (h : Call.transfer n x ∈ a.calls host g s) :
    a.Grounded g x ∧ a.Grounded g (a.flowAt n x) := by
  cases hd : g.defect? with
  | some d =>
    rw [a.calls_of_defect host s hd] at h
    cases h
  | none =>
    have hg := Graph.WellFormed.of_defect? hd
    obtain ⟨t, ht, hn, rfl⟩ := visits_of_mem_calls h
    have hx := Visits.inflow_possible hg ht n
    have ht' := ht.of_restricts (a.restricts_lenient host)
    have hmem := (Visits.settled (a.problem_computes host.lenient_neverFails) hg
      ht').queue_reachable n hn
    exact ⟨.of_possible hg hx, .of_possible hg (flowAt_possible hmem hx)⟩

/-- What a transfer returns is what leaves the vertex, whatever the host does. -/
theorem eq_flowAt_of_transfer {a : Analysis} {host : Host σ ε} {n : Vertex} {x y : FactSet}
    {c : Session σ} (h : (a.transfer host n x c).1 = .ok y) : y = a.flowAt n x := by
  have hok : (a.problem host).transfer n x c = (.ok y, (a.transfer host n x c).2) := Prod.ext h rfl
  have hlenient := (a.restricts_lenient host).transfer _ _ _ _ _ hok
  exact ((a.problem_computes host.lenient_neverFails).eq_of_transfer hlenient).symm

/-- The number of definitions counts the reached statements that define a variable. -/
theorem definitions_eq (a : Analysis) {g : Graph} (hg : g.WellFormed) {R : Finset Vertex}
    (hR : ∀ n, n ∈ R ↔ g.Reached n) :
    a.definitions g = (R.filter fun n => (defined? (a.statement n)).isSome).card := by
  rw [eq_toFinset_reachable hg hR, ← List.toFinset_filter,
    List.toFinset_card_of_nodup (hg.nodup_reachable.filter _), definitions,
    List.countP_eq_length_filter]

/-- **A run ends on every input, and its facts are grounded at all times.** This is for every graph,
every statement at every vertex, every secret operation and every host:
* on a malformed graph it fails with the defect, without a transfer and without a report;
* it never fails because its evaluations are used up, and no fact that a statement establishes is
  refused;
* the facts that enter and leave a vertex at any of its evaluations, and those that are returned,
  are grounded;
* if the graph has no defect and the host never fails, it has a solution after no more evaluations
  than reached vertices and, once for every reached statement that defines a variable, the edges
  that leave them. -/
theorem run_ends_grounded (a : Analysis) (host : Host σ ε) (g : Graph) (s : Session σ) :
    (∀ d, g.defect? = some d →
      a.run host g s = (.error ⟨a.proc, .invalid d⟩, opening host g s) ∧
        a.calls host g s = [] ∧ a.reports host g s = []) ∧
    (∀ e, (a.run host g s).1 = .error e → e.cause ≠ .exhausted) ∧
    (∀ n x, guardedEffect a.secret n (a.statement n) x =
      .ok (effect a.secret n (a.statement n) x)) ∧
    (∀ n x, Call.transfer n x ∈ a.calls host g s → a.Grounded g x ∧
      ∀ c y, (a.transfer host n x c).1 = .ok y → a.Grounded g y) ∧
    (∀ sol, (a.run host g s).1 = .ok sol →
      ∀ n, a.Grounded g (sol.before.get n) ∧ a.Grounded g (sol.after.get n)) ∧
    (g.defect? = none → host.NeverFails → ∃ sol, (a.run host g s).1 = .ok sol ∧
      ∀ R : Finset Vertex, (∀ n, n ∈ R ↔ g.Reached n) →
        sol.evaluations ≤ R.card + (R.filter fun n => (defined? (a.statement n)).isSome).card *
          ∑ n ∈ R, (g.succs n).length) := by
  refine ⟨fun d hd => ⟨a.run_of_defect host s hd, a.calls_of_defect host s hd, ?_⟩,
    fun e he => cause_ne_exhausted he, fun n x => guardedEffect_eq _ _ _ _, fun n x hcall => ?_,
    fun sol hsol n => ?_, fun hd hh => ?_⟩
  · rw [reports, a.run_of_defect _ _ hd]
    rfl
  · obtain ⟨hin, hout⟩ := grounded_of_mem_calls hcall
    exact ⟨hin, fun c y hy => eq_flowAt_of_transfer hy ▸ hout⟩
  · obtain ⟨hg, t, ht, -, rfl, -⟩ := solve_ok (Prod.ext (solve_of_run hsol) rfl)
    have hpossible := Visits.possible hg ht n
    exact ⟨.of_possible hg fun f => (hpossible f).1, .of_possible hg fun f => (hpossible f).2⟩
  · have hg := Graph.WellFormed.of_defect? hd
    obtain ⟨t, -, -, hrun⟩ := a.run_ok hh hd s
    have hok : (a.run host g s).1 = .ok t.solution := by rw [hrun]
    refine ⟨t.solution, hok, fun R hR => ?_⟩
    rw [← a.definitions_eq hg hR, ← evaluationBound_eq hg _ hR]
    exact evaluations_le (solve_of_run hok)

end Analysis

namespace Sample

/-- A host that fails at the first leak. -/
def refuser : Host Unit Unit where
  note _ c := c
  report _ c := (some (), c)

/-- The graph without vertices. -/
def emptyGraph : Graph := ⟨[], vertex 0, fun _ => [], fun _ => []⟩

/-- The run of `relay` ends at its only leak when that cannot be reported, and the facts that came
there are grounded. With a host that keeps the leak it ends after at most sixteen evaluations: four
vertices are reached, three of them define a variable and four edges lead on. On the graph without
vertices it fails at once. -/
theorem relay_ends_grounded :
    (∃ e, (relay.run refuser relayGraph ⟨[], ()⟩).1 = .error e ∧ e.cause ≠ .exhausted) ∧
    (∃ x, Call.transfer (vertex 3) x ∈ relay.calls refuser relayGraph ⟨[], ()⟩ ∧
      x.has ⟨vertex 1, y⟩ = true ∧ relay.Grounded relayGraph x) ∧
    (∃ sol, (relay.run keeper relayGraph ⟨[], []⟩).1 = .ok sol ∧ sol.evaluations ≤ 4 + 3 * 4) ∧
    relay.run keeper emptyGraph ⟨[], []⟩ = (.error ⟨relay.proc, .invalid .empty⟩, ⟨[], []⟩) := by
  have hg : relayGraph.defect? = none := by decide
  obtain ⟨-, hends, -, hcalls, -, -⟩ := relay.run_ends_grounded refuser relayGraph ⟨[], ()⟩
  obtain ⟨-, -, -, -, -, hbound⟩ := relay.run_ends_grounded keeper relayGraph ⟨[], []⟩
  obtain ⟨hempty, -⟩ := relay.run_ends_grounded keeper emptyGraph ⟨[], []⟩
  refine ⟨?_, ?_, ?_, (hempty .empty rfl).1⟩
  · have hfails : (relay.run refuser relayGraph ⟨[], ()⟩).1.isOk = false := by decide +kernel
    cases he : (relay.run refuser relayGraph ⟨[], ()⟩).1 with
    | ok sol =>
      rw [he] at hfails
      cases hfails
    | error e => exact ⟨e, rfl, hends e he⟩
  · have hany : (relay.calls refuser relayGraph ⟨[], ()⟩).any (fun
        | .transfer n x => n == vertex 3 && x.has ⟨vertex 1, y⟩
        | .change _ _ _ => false) = true := by decide +kernel
    obtain ⟨call, hmem, hcall⟩ := List.any_eq_true.1 hany
    split at hcall
    · next n x =>
      rw [Bool.and_eq_true, beq_iff_eq] at hcall
      obtain ⟨rfl, hx⟩ := hcall
      exact ⟨x, hmem, hx, (hcalls _ x hmem).1⟩
    · cases hcall
  · obtain ⟨sol, hsol, hle⟩ := hbound hg keeper_neverFails
    have hR := mem_toFinset_reachable (.of_defect? hg)
    exact ⟨sol, hsol, (hle _ hR).trans_eq (by decide)⟩

end Sample

end LeakCheck.Propagation
