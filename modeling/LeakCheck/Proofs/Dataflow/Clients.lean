import LeakCheck.Proofs.Dataflow.Run

/-!
# Clients of the solver

Two problems with the same operations on flow values are compared by what their clients do. As long
as two clients answer alike, so does solving (`Problem.Alike.solve`); in particular a client that
keeps more beside its state changes nothing (`Problem.Extends.solve_eq`). One that fails where
another does not passes through no other states (`Visits.of_restricts`).

`Problem.logged` is a problem that also writes down the calls made to it. Whatever solving comes to,
each transfer in the log is of what enters a waiting vertex in some state of the run
(`visits_of_mem_calls`).
-/

namespace LeakCheck.Dataflow

variable {φ σ ε : Type}

/-! ## Clients that answer alike -/

/-- `p` and `q` answer alike to clients whose states `R` relates, and keep the states related. -/
structure Problem.Alike {τ : Type} (p : Problem φ σ ε) (q : Problem φ τ ε) (R : σ → τ → Prop) :
    Prop where
  lattice : p.lattice = q.lattice
  transfer : ∀ n x c d, R c d →
    (p.transfer n x c).1 = (q.transfer n x d).1 ∧ R (p.transfer n x c).2 (q.transfer n x d).2
  onChange : ∀ n old new c d, R c d → R (p.onChange n old new c) (q.onChange n old new d)

/-- Two solvers have come equally far, for clients whose states `R` relates. -/
structure Progress.Alike {τ : Type} (R : σ → τ → Prop) (s : Progress φ σ) (t : Progress φ τ) :
    Prop where
  solution : s.solution = t.solution
  queue : s.queue = t.queue
  client : R s.client t.client

section
variable {τ : Type} {p : Problem φ σ ε} {q : Problem φ τ ε} {R : σ → τ → Prop}

/-- An evaluation fails alike or leads equally far. -/
theorem Problem.Alike.evaluate (h : p.Alike q R) (g : Graph) (n : Vertex) {s : Progress φ σ}
    {t : Progress φ τ} (hst : s.Alike R t) :
    (∃ e c d, evaluate p g n s = (.error e, c) ∧ evaluate q g n t = (.error e, d) ∧ R c d) ∨
      ∃ s' t' c d, evaluate p g n s = (.ok s', c) ∧ evaluate q g n t = (.ok t', d) ∧
        s'.Alike R t' := by
  obtain ⟨sol, queue, c⟩ := s
  obtain ⟨_, _, d⟩ := t
  obtain ⟨rfl, rfl, hclient⟩ := hst
  have hinflow : inflow p g sol.after n = inflow q g sol.after n := by
    rw [inflow, inflow, h.lattice]
  obtain ⟨hanswer, hstate⟩ := h.transfer n (inflow q g sol.after n) c d hclient
  simp only [Dataflow.evaluate, update, hinflow]
  generalize p.transfer n (inflow q g sol.after n) c = a at hanswer hstate ⊢
  generalize q.transfer n (inflow q g sol.after n) d = b at hanswer hstate ⊢
  obtain ⟨r, c'⟩ := a
  obtain ⟨_, d'⟩ := b
  cases hanswer
  rcases r with e | y
  · exact .inl ⟨_, _, _, rfl, rfl, hstate⟩
  · refine .inr ?_
    dsimp only
    rw [h.lattice]
    cases q.lattice.equal y (sol.after.get n) with
    | true => exact ⟨_, _, _, _, rfl, rfl, rfl, rfl, hstate⟩
    | false => exact ⟨_, _, _, _, rfl, rfl, rfl, rfl, h.onChange _ _ _ _ _ hstate⟩

theorem Problem.Alike.iterate (h : p.Alike q R) (g : Graph) (fuel : Nat) {s : Progress φ σ}
    {t : Progress φ τ} (hst : s.Alike R t) :
    (iterate p g fuel s).1 = (iterate q g fuel t).1 ∧
      R (iterate p g fuel s).2 (iterate q g fuel t).2 := by
  induction fuel generalizing s t with
  | zero =>
    obtain ⟨sol, _ | ⟨n, rest⟩, c⟩ := s
    all_goals
      obtain ⟨_, _, d⟩ := t
      obtain ⟨rfl, rfl, hclient⟩ := hst
      exact ⟨rfl, hclient⟩
  | succ fuel ih =>
    obtain ⟨sol, _ | ⟨n, rest⟩, c⟩ := s
    all_goals
      obtain ⟨_, _, d⟩ := t
      obtain ⟨rfl, rfl, hclient⟩ := hst
    · exact ⟨rfl, hclient⟩
    · have hnext := h.evaluate g n (s := ⟨sol, rest, c⟩) (t := ⟨sol, rest, d⟩) ⟨rfl, rfl, hclient⟩
      rw [iterate_succ, iterate_succ]
      rcases hnext with ⟨e, c', d', hp, hq, hstate⟩ | ⟨s', t', c', d', hp, hq, hst'⟩
      · rw [hp, hq]
        exact ⟨rfl, hstate⟩
      · rw [hp, hq]
        exact ih hst'

/-- **Clients that answer alike get the same solution**, or the same failure. -/
theorem Problem.Alike.solve (h : p.Alike q R) (g : Graph) (fuel : Nat) {c : σ} {d : τ}
    (hclient : R c d) :
    (solve p g fuel c).1 = (solve q g fuel d).1 ∧ R (solve p g fuel c).2 (solve q g fuel d).2 := by
  unfold Dataflow.solve
  split
  · exact ⟨rfl, hclient⟩
  · exact h.iterate g fuel ⟨by simp only [start, h.lattice], rfl, hclient⟩

end

/-! ## Clients that keep more -/

/-- The progress of a solver as a client sees it that keeps only part of the state. -/
def Progress.mapClient {τ : Type} (π : τ → σ) (s : Progress φ τ) : Progress φ σ :=
  ⟨s.solution, s.queue, π s.client⟩

/-- `p'` is the problem `p` for a client whose state `π` projects to that of the client of `p`. -/
structure Problem.Extends {τ : Type} (p' : Problem φ τ ε) (p : Problem φ σ ε) (π : τ → σ) :
    Prop where
  lattice : p'.lattice = p.lattice
  transfer : ∀ n x c, p.transfer n x (π c) = ((p'.transfer n x c).1, π (p'.transfer n x c).2)
  onChange : ∀ n old new c, p.onChange n old new (π c) = π (p'.onChange n old new c)

section
variable {τ : Type} {p' : Problem φ τ ε} {p : Problem φ σ ε} {π : τ → σ}

theorem Problem.Extends.inflow_eq (h : p'.Extends p π) (g : Graph) (after : Assignment φ)
    (n : Vertex) : inflow p g after n = inflow p' g after n := by
  rw [inflow, inflow, h.lattice]

theorem Problem.Extends.start_eq (h : p'.Extends p π) (g : Graph) (c : τ) :
    start p g (π c) = (start p' g c).mapClient π := by
  simp only [start, Progress.mapClient, h.lattice]

/-- What a client keeps beside its state does not show in its answers. -/
theorem Problem.Extends.alike (h : p'.Extends p π) : p.Alike p' fun c d => c = π d where
  lattice := h.lattice.symm
  transfer n x c d hc := by
    subst hc
    rw [h.transfer]
    exact ⟨rfl, rfl⟩
  onChange n old new c d hc := by
    subst hc
    exact h.onChange n old new d

/-- **What a client keeps beside its state changes nothing.** -/
theorem Problem.Extends.solve_eq (h : p'.Extends p π) (g : Graph) (fuel : Nat) (c : τ) :
    solve p g fuel (π c) = ((solve p' g fuel c).1, π (solve p' g fuel c).2) := by
  obtain ⟨hresult, hclient⟩ := h.alike.solve g fuel (c := π c) rfl
  exact Prod.ext hresult hclient

/-- A step for the client that keeps more is one for the other. -/
theorem Problem.Extends.step (h : p'.Extends p π) {g : Graph} {s s' : Progress φ τ}
    (hstep : Step p' g s s') : Step p g (s.mapClient π) (s'.mapClient π) := by
  cases hstep with
  | @keep before after k n rest y c c' ht he =>
    have ht' := h.transfer n (inflow p' g after n) c
    rw [ht] at ht'
    simp only [Progress.mapClient]
    rw [← h.inflow_eq g after n] at ht' ⊢
    exact .keep ht' (h.lattice ▸ he)
  | @change before after k n rest y c c' ht he =>
    have ht' := h.transfer n (inflow p' g after n) c
    rw [ht] at ht'
    simp only [Progress.mapClient]
    rw [← h.inflow_eq g after n] at ht' ⊢
    rw [← h.onChange]
    exact .change ht' (h.lattice ▸ he)

/-- The states that a solver passes through for the client that keeps more are those for the
other. -/
theorem Problem.Extends.visits (h : p'.Extends p π) {g : Graph} {c : τ} {s : Progress φ τ}
    (hs : Visits p' g c s) : Visits p g (π c) (s.mapClient π) := by
  rw [Visits, h.start_eq]
  exact Relation.ReflTransGen.lift (Progress.mapClient π) (fun _ _ => h.step) _ _ hs

end

/-! ## Clients that fail -/

/-- Where `p` succeeds `q` does the same, also to the state of the client. -/
structure Problem.Restricts {δ : Type} (p : Problem φ σ ε) (q : Problem φ σ δ) : Prop where
  lattice : p.lattice = q.lattice
  transfer : ∀ n x c y c', p.transfer n x c = (.ok y, c') → q.transfer n x c = (.ok y, c')
  onChange : p.onChange = q.onChange

section
variable {δ : Type} {p : Problem φ σ ε} {q : Problem φ σ δ}

theorem Problem.Restricts.refl (p : Problem φ σ ε) : p.Restricts p where
  lattice := rfl
  transfer _ _ _ _ _ h := h
  onChange := rfl

theorem Problem.Restricts.inflow_eq (h : p.Restricts q) (g : Graph) (after : Assignment φ)
    (n : Vertex) : inflow p g after n = inflow q g after n := by
  rw [inflow, inflow, h.lattice]

theorem Problem.Restricts.start_eq (h : p.Restricts q) (g : Graph) (c : σ) :
    start p g c = start q g c := by
  simp only [start, h.lattice]

theorem Problem.Restricts.step (h : p.Restricts q) {g : Graph} {s s' : Progress φ σ}
    (hstep : Step p g s s') : Step q g s s' := by
  cases hstep with
  | @keep before after k n rest y c c' ht he =>
    have ht' := h.transfer _ _ _ _ _ ht
    rw [h.inflow_eq] at ht' ⊢
    exact .keep ht' (h.lattice ▸ he)
  | @change before after k n rest y c c' ht he =>
    have ht' := h.transfer _ _ _ _ _ ht
    rw [h.inflow_eq] at ht' ⊢
    rw [h.onChange]
    exact .change ht' (h.lattice ▸ he)

/-- **Failures only cut a run short.** -/
theorem Visits.of_restricts (h : p.Restricts q) {g : Graph} {c : σ} {s : Progress φ σ}
    (hs : Visits p g c s) : Visits q g c s := by
  rw [Visits, ← h.start_eq]
  exact Relation.ReflTransGen.mono (fun _ _ => h.step) _ _ hs

end

/-! ## The calls of a solver -/

/-- What a solver asks of its client. -/
inductive Call (φ : Type) where
  /-- To transfer a value through a vertex. -/
  | transfer (n : Vertex) (entering : φ)
  /-- To take notice that the value leaving a vertex changes. -/
  | change (n : Vertex) (old new : φ)

/-- The same problem for a client that also writes down the calls made to it. -/
def Problem.logged (p : Problem φ σ ε) : Problem φ (σ × List (Call φ)) ε where
  lattice := p.lattice
  transfer n x s :=
    ((p.transfer n x s.1).1, (p.transfer n x s.1).2, s.2 ++ [.transfer n x])
  onChange n old new s := (p.onChange n old new s.1, s.2 ++ [.change n old new])

/-- The calls made while a problem is solved, in their order. -/
def calls (p : Problem φ σ ε) (g : Graph) (fuel : Nat) (client : σ) : List (Call φ) :=
  (solve p.logged g fuel (client, [])).2.2

theorem Problem.logged_extends (p : Problem φ σ ε) : p.logged.Extends p Prod.fst where
  lattice := rfl
  transfer _ _ _ := rfl
  onChange _ _ _ _ := rfl

/-- A transfer adds itself to the log. -/
theorem Problem.log_of_transfer {p : Problem φ σ ε} {n : Vertex} {x : φ}
    {c c' : σ × List (Call φ)} {r : Except ε φ} (h : p.logged.transfer n x c = (r, c')) :
    c'.2 = c.2 ++ [.transfer n x] :=
  (congrArg (fun r => r.2.2) h).symm

/-- A transfer and a change that follows it add themselves to the log. -/
theorem Problem.log_of_change {p : Problem φ σ ε} {n : Vertex} {x : φ}
    {c c' : σ × List (Call φ)} {r : Except ε φ} (h : p.logged.transfer n x c = (r, c'))
    (old new : φ) :
    (p.logged.onChange n old new c').2 = c.2 ++ [.transfer n x] ++ [.change n old new] :=
  congrArg (· ++ [Call.change n old new]) (Problem.log_of_transfer h)

theorem Problem.Computes.logged {p : Problem φ σ ε} {f : Vertex → φ → φ} (hp : p.Computes f) :
    p.logged.Computes f :=
  fun n x s => hp n x s.1

/-- In a state that is passed through, each logged transfer is of what entered a waiting vertex in
such a state. -/
theorem Visits.logged_transfer {p : Problem φ σ ε} {g : Graph} {client : σ}
    {s : Progress φ (σ × List (Call φ))} (h : Visits p.logged g (client, []) s) {n : Vertex}
    {x : φ} (hcall : Call.transfer n x ∈ s.client.2) :
    ∃ t, Visits p g client t ∧ n ∈ t.queue ∧ x = inflow p g t.solution.after n := by
  induction h with
  | refl => cases hcall
  | @tail t t' hrun hstep ih =>
    obtain ⟨m, rest, y, c, hq, ht, -, -, hclient⟩ := hstep.evaluated
    have hlog : Call.transfer n x ∈ c.2 := by
      rcases hclient with hclient | hclient
      · rwa [hclient] at hcall
      · rw [hclient] at hcall
        rcases List.mem_append.1 hcall with hold | hnew
        · exact hold
        · cases List.mem_singleton.1 hnew
    rw [Problem.log_of_transfer ht] at hlog
    rcases List.mem_append.1 hlog with hold | hnew
    · exact ih hold
    · cases List.mem_singleton.1 hnew
      refine ⟨_, p.logged_extends.visits hrun, ?_, rfl⟩
      show n ∈ t.queue
      rw [hq]
      exact List.mem_cons_self

/-- **Every transfer is of what enters a waiting vertex.** This holds of all calls made while a
problem is solved, also if the last of them fails. -/
theorem visits_of_mem_calls {p : Problem φ σ ε} {g : Graph} {fuel : Nat} {client : σ} {n : Vertex}
    {x : φ} (hcall : Call.transfer n x ∈ calls p g fuel client) :
    ∃ t, Visits p g client t ∧ n ∈ t.queue ∧ x = inflow p g t.solution.after n := by
  unfold calls solve at hcall
  split at hcall
  · cases hcall
  · have hends := iterate_ends p.logged g fuel (start p.logged g (client, []))
    generalize iterate p.logged g fuel (start p.logged g (client, [])) = r at hcall hends
    cases hends with
    | solved hrun hqueue => exact Visits.logged_transfer hrun hcall
    | exhausted hrun hqueue => exact Visits.logged_transfer hrun hcall
    | @failed t m rest cause c hrun hqueue ht =>
      rw [Problem.log_of_transfer ht] at hcall
      rcases List.mem_append.1 hcall with hold | hnew
      · exact Visits.logged_transfer hrun hold
      · cases List.mem_singleton.1 hnew
        refine ⟨_, p.logged_extends.visits hrun, ?_, rfl⟩
        show n ∈ t.queue
        rw [hqueue]
        exact List.mem_cons_self

end LeakCheck.Dataflow
