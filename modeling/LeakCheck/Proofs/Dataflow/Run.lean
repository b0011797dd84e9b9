import LeakCheck.Dataflow.Solver
import LeakCheck.Proofs.Graph.Reachable

/-!
# Runs of the solver

`Step` is one evaluation as a relation between the states of the solver, with one constructor for
each of its two outcomes, and a run is a sequence of steps. `iterate_ends` gives the run behind
whatever iterating comes to, and `iterate_ne_exhausted` says when the allowed evaluations suffice,
so that no later proof opens `evaluate` or `iterate`. Beyond what suffices, the number of allowed
evaluations does not matter (`solve_of_le`).
-/

namespace LeakCheck.Dataflow

variable {φ σ ε : Type}

/-- The transfer never fails, and what leaves a vertex is a function of what enters it; what the
client does with its state is free. -/
def Problem.Computes (p : Problem φ σ ε) (f : Vertex → φ → φ) : Prop :=
  ∀ n x s, (p.transfer n x s).1 = .ok (f n x)

/-- A transfer that succeeds returns the value of the function that it computes. -/
theorem Problem.Computes.eq_of_transfer {p : Problem φ σ ε} {f : Vertex → φ → φ}
    (hp : p.Computes f) {n : Vertex} {x y : φ} {c c' : σ}
    (h : p.transfer n x c = (.ok y, c')) : f n x = y := by
  have hpure := hp n x c
  rw [h] at hpure
  exact (Except.ok.inj hpure).symm

/-! ## The queue -/

theorem mem_push {queue : List Vertex} {m n : Vertex} :
    m ∈ push queue n ↔ m ∈ queue ∨ m = n := by
  unfold push
  split
  · next h => exact ⟨.inl, fun hm => hm.elim id (fun e => e ▸ h)⟩
  · simp

/-- Queued are the vertices that waited before and those that were added. -/
theorem mem_pushAll {queue ns : List Vertex} {m : Vertex} :
    m ∈ pushAll queue ns ↔ m ∈ queue ∨ m ∈ ns := by
  induction ns generalizing queue with
  | nil => simp [pushAll]
  | cons n ns ih =>
    show m ∈ pushAll (push queue n) ns ↔ _
    rw [ih, mem_push, List.mem_cons, or_assoc]

theorem length_push_le (queue : List Vertex) (n : Vertex) :
    (push queue n).length ≤ queue.length + 1 := by
  unfold push
  split
  · omega
  · exact Nat.le_of_eq List.length_append

/-- A queue grows by at most the vertices that are added. -/
theorem length_pushAll_le (queue ns : List Vertex) :
    (pushAll queue ns).length ≤ queue.length + ns.length := by
  induction ns generalizing queue with
  | nil => simp [pushAll]
  | cons n ns ih =>
    have hrest := ih (push queue n)
    have hpush := length_push_le queue n
    rw [List.length_cons]
    show (pushAll (push queue n) ns).length ≤ _
    omega

/-! ## Steps -/

/-- What enters a vertex depends only on what leaves its predecessors. -/
theorem inflow_congr {p : Problem φ σ ε} {g : Graph} {after after' : Assignment φ} {n : Vertex}
    (h : ∀ m ∈ g.preds n, after.get m = after'.get m) :
    inflow p g after n = inflow p g after' n := by
  unfold inflow
  generalize (if n = g.entry then _ else _) = start
  generalize g.preds n = ms at h
  induction ms generalizing start with
  | nil => rfl
  | cons m ms ih =>
    rw [List.foldl_cons, List.foldl_cons, h m (by simp)]
    exact ih _ fun k hk => h k (List.mem_cons_of_mem m hk)

/-- One evaluation that does not fail: the first waiting vertex `n` leaves the queue, what enters
it is stored, and what leaves it is stored and announced only if it differs from what was. -/
inductive Step (p : Problem φ σ ε) (g : Graph) : Progress φ σ → Progress φ σ → Prop
  /-- What leaves `n` is the same as before. -/
  | keep {before after : Assignment φ} {k : Nat} {n : Vertex} {rest : List Vertex} {y : φ}
      {c c' : σ} (ht : p.transfer n (inflow p g after n) c = (.ok y, c'))
      (he : p.lattice.equal y (after.get n) = true) :
      Step p g ⟨⟨before, after, k⟩, n :: rest, c⟩
        ⟨⟨before.set n (inflow p g after n), after, k + 1⟩, rest, c'⟩
  /-- What leaves `n` changes, so its successors have to be evaluated again. -/
  | change {before after : Assignment φ} {k : Nat} {n : Vertex} {rest : List Vertex} {y : φ}
      {c c' : σ} (ht : p.transfer n (inflow p g after n) c = (.ok y, c'))
      (he : p.lattice.equal y (after.get n) = false) :
      Step p g ⟨⟨before, after, k⟩, n :: rest, c⟩
        ⟨⟨before.set n (inflow p g after n), after.set n y, k + 1⟩,
          pushAll rest (g.succs n), p.onChange n (after.get n) y c'⟩

/-- What the outcomes of a step have in common: the first waiting vertex is transferred through and
what enters it is stored, the others go on waiting, and the client at most learns of a change. -/
theorem Step.evaluated {p : Problem φ σ ε} {g : Graph} {s s' : Progress φ σ} (h : Step p g s s') :
    ∃ n rest y c, s.queue = n :: rest ∧
      p.transfer n (inflow p g s.solution.after n) s.client = (.ok y, c) ∧
      s'.solution.before = s.solution.before.set n (inflow p g s.solution.after n) ∧
      (∀ m ∈ rest, m ∈ s'.queue) ∧
      (s'.client = c ∨ s'.client = p.onChange n (s.solution.after.get n) y c) := by
  cases h with
  | keep ht he => exact ⟨_, _, _, _, rfl, ht, rfl, fun m hm => hm, .inl rfl⟩
  | change ht he => exact ⟨_, _, _, _, rfl, ht, rfl, fun m hm => mem_pushAll.2 (.inl hm), .inr rfl⟩

/-- The states that a solver passes through. -/
def Visits (p : Problem φ σ ε) (g : Graph) (client : σ) (s : Progress φ σ) : Prop :=
  Relation.ReflTransGen (Step p g) (start p g client) s

/-- The state that a step leads to is determined by the one it starts from. -/
theorem Step.rightUnique (p : Problem φ σ ε) (g : Graph) : Relator.RightUnique (Step p g) := by
  intro s t u ht hu
  cases ht with
  | keep ht he =>
    cases hu with
    | keep ht' he' =>
      cases ht.symm.trans ht'
      rfl
    | change ht' he' =>
      cases ht.symm.trans ht'
      exact absurd he (Bool.eq_false_iff.1 he')
  | change ht he =>
    cases hu with
    | keep ht' he' =>
      cases ht.symm.trans ht'
      exact absurd he' (Bool.eq_false_iff.1 he)
    | change ht' he' =>
      cases ht.symm.trans ht'
      rfl

/-- Every state of a run that comes to an end leads to that end. -/
theorem Visits.leads_to_end {p : Problem φ σ ε} {g : Graph} {client : σ} {t u : Progress φ σ}
    (ht : Visits p g client t) (hu : Visits p g client u) (hqueue : u.queue = []) :
    Relation.ReflTransGen (Step p g) t u := by
  rcases Relation.ReflTransGen.total_of_right_unique (Step.rightUnique p g) ht hu with h | h
  · exact h
  · rcases h.cases_head with rfl | ⟨u', hstep, -⟩
    · exact .refl
    · obtain ⟨n, rest, -, -, hcons, -⟩ := hstep.evaluated
      rw [hqueue] at hcons
      cases hcons

/-- What an update comes to: the transfer fails, or what leaves the vertex is the same as before, or
it changes and the successors have to be evaluated. -/
theorem update_cases (p : Problem φ σ ε) (g : Graph) (n : Vertex) (sol : Solution φ) (c : σ) :
    (∃ cause c', p.transfer n (inflow p g sol.after n) c = (.error cause, c') ∧
      update p g n sol c = (.error (.transfer n cause), c')) ∨
    ∃ y c', p.transfer n (inflow p g sol.after n) c = (.ok y, c') ∧
      ((p.lattice.equal y (sol.after.get n) = true ∧ update p g n sol c =
        (.ok (⟨sol.before.set n (inflow p g sol.after n), sol.after, sol.evaluations + 1⟩, []),
          c')) ∨
      (p.lattice.equal y (sol.after.get n) = false ∧ update p g n sol c =
        (.ok (⟨sol.before.set n (inflow p g sol.after n), sol.after.set n y,
          sol.evaluations + 1⟩, g.succs n), p.onChange n (sol.after.get n) y c'))) := by
  simp only [update]
  rcases p.transfer n (inflow p g sol.after n) c with ⟨cause | y, c'⟩
  · exact .inl ⟨cause, c', rfl, rfl⟩
  · refine .inr ⟨y, c', rfl, ?_⟩
    cases he : p.lattice.equal y (sol.after.get n) with
    | true => exact .inl ⟨rfl, if_pos he⟩
    | false => exact .inr ⟨rfl, if_neg (Bool.eq_false_iff.1 he)⟩

/-- An evaluation that does not fail is a step. -/
theorem step_of_evaluate {p : Problem φ σ ε} {g : Graph} {s s' : Progress φ σ} {n : Vertex}
    {rest : List Vertex} {c : σ} (hq : s.queue = n :: rest)
    (h : evaluate p g n { s with queue := rest } = (.ok s', c)) : Step p g s s' := by
  obtain ⟨⟨before, after, k⟩, queue, client⟩ := s
  cases hq
  rw [evaluate] at h
  rcases update_cases p g n ⟨before, after, k⟩ client with
    ⟨_, _, -, hupdate⟩ | ⟨_, _, ht, ⟨he, hupdate⟩ | ⟨he, hupdate⟩⟩
  · rw [hupdate] at h
    cases h
  · rw [hupdate] at h
    cases h
    exact .keep ht he
  · rw [hupdate] at h
    cases h
    exact .change ht he

/-- Iterating stops when nothing waits. -/
theorem iterate_nil (p : Problem φ σ ε) (g : Graph) (fuel : Nat) (sol : Solution φ) (c : σ) :
    iterate p g fuel ⟨sol, [], c⟩ = (.ok sol, c) := by
  cases fuel <;> rfl

/-- Iterating evaluates the first vertex that waits and goes on unless that fails. -/
theorem iterate_succ (p : Problem φ σ ε) (g : Graph) (fuel : Nat) (sol : Solution φ) (n : Vertex)
    (rest : List Vertex) (c : σ) :
    iterate p g (fuel + 1) ⟨sol, n :: rest, c⟩ =
      match evaluate p g n ⟨sol, rest, c⟩ with
      | (.error e, client) => (.error e, client)
      | (.ok s, _) => iterate p g fuel s :=
  rfl

/-- An evaluation fails only because the transfer does. -/
theorem transfer_of_evaluate {p : Problem φ σ ε} {g : Graph} {n : Vertex} {s : Progress φ σ}
    {e : SolveError ε} {c : σ} (h : evaluate p g n s = (.error e, c)) :
    ∃ cause, e = .transfer n cause ∧
      p.transfer n (inflow p g s.solution.after n) s.client = (.error cause, c) := by
  rw [evaluate] at h
  rcases update_cases p g n s.solution s.client with
    ⟨cause, _, ht, hupdate⟩ | ⟨_, _, -, ⟨-, hupdate⟩ | ⟨-, hupdate⟩⟩
  · rw [hupdate] at h
    cases h
    exact ⟨cause, rfl, ht⟩
  · rw [hupdate] at h
    cases h
  · rw [hupdate] at h
    cases h

/-- How iterating from a state ends, with the run behind it. -/
inductive Ends (p : Problem φ σ ε) (g : Graph) (s : Progress φ σ) :
    Except (SolveError ε) (Solution φ) × σ → Prop
  /-- Nothing waits any more. -/
  | solved {t : Progress φ σ} (hrun : Relation.ReflTransGen (Step p g) s t)
      (hqueue : t.queue = []) : Ends p g s (.ok t.solution, t.client)
  /-- The transfer through the first waiting vertex fails. -/
  | failed {t : Progress φ σ} {n : Vertex} {rest : List Vertex} {cause : ε} {c : σ}
      (hrun : Relation.ReflTransGen (Step p g) s t) (hqueue : t.queue = n :: rest)
      (ht : p.transfer n (inflow p g t.solution.after n) t.client = (.error cause, c)) :
      Ends p g s (.error (.transfer n cause), c)
  /-- Vertices wait, but no evaluation is left. -/
  | exhausted {t : Progress φ σ} (hrun : Relation.ReflTransGen (Step p g) s t)
      (hqueue : t.queue ≠ []) : Ends p g s (.error .exhausted, t.client)

/-- What holds of the rest of a run after its first step holds of the whole run. -/
theorem Ends.head {p : Problem φ σ ε} {g : Graph} {s s' : Progress φ σ}
    {r : Except (SolveError ε) (Solution φ) × σ} (hstep : Step p g s s') (h : Ends p g s' r) :
    Ends p g s r := by
  cases h with
  | solved hrun hqueue => exact .solved (.head hstep hrun) hqueue
  | failed hrun hqueue ht => exact .failed (.head hstep hrun) hqueue ht
  | exhausted hrun hqueue => exact .exhausted (.head hstep hrun) hqueue

/-- **Iterating ends in one of these ways.** -/
theorem iterate_ends (p : Problem φ σ ε) (g : Graph) (fuel : Nat) (s : Progress φ σ) :
    Ends p g s (iterate p g fuel s) := by
  induction fuel generalizing s with
  | zero =>
    obtain ⟨sol, _ | ⟨n, rest⟩, c⟩ := s
    · rw [iterate_nil]
      exact .solved .refl rfl
    · exact .exhausted .refl (List.cons_ne_nil n rest)
  | succ fuel ih =>
    obtain ⟨sol, _ | ⟨n, rest⟩, c⟩ := s
    · rw [iterate_nil]
      exact .solved .refl rfl
    · rw [iterate_succ]
      split
      · next e c' he =>
        obtain ⟨cause, rfl, ht⟩ := transfer_of_evaluate he
        exact .failed .refl rfl ht
      · next s' c' he => exact (ih s').head (step_of_evaluate rfl he)

/-- A solution found by iterating is that of a state with nothing left to evaluate. -/
theorem iterate_ok {p : Problem φ σ ε} {g : Graph} {fuel : Nat} {s : Progress φ σ}
    {sol : Solution φ} {c : σ} (h : iterate p g fuel s = (.ok sol, c)) :
    ∃ s', Relation.ReflTransGen (Step p g) s s' ∧ s'.queue = [] ∧ s'.solution = sol ∧
      s'.client = c := by
  have hends := iterate_ends p g fuel s
  rw [h] at hends
  cases hends with
  | solved hrun hqueue => exact ⟨_, hrun, hqueue, rfl, rfl⟩

/-- **A solution has a run behind it.** Solving succeeds only on a graph without defects, in a
state that steps lead to from the start and in which nothing waits. -/
theorem solve_ok {p : Problem φ σ ε} {g : Graph} {fuel : Nat} {client c : σ} {sol : Solution φ}
    (h : solve p g fuel client = (.ok sol, c)) :
    g.WellFormed ∧ ∃ s, Visits p g client s ∧ s.queue = [] ∧ s.solution = sol ∧ s.client = c := by
  unfold solve at h
  split at h
  · cases h
  · next hg => exact ⟨.of_defect? hg, iterate_ok h⟩

/-- **The evaluations suffice when each step uses up a budget.** If `Needs k s` bounds by `k` the
evaluations still needed in `s`, in the sense that no more vertices wait and that a step leads to a
state that needs fewer, then iterating from `s` does not run out of `k` evaluations. -/
theorem iterate_ne_exhausted {p : Problem φ σ ε} {g : Graph} {Needs : Nat → Progress φ σ → Prop}
    (hwait : ∀ k s, Needs k s → s.queue.length ≤ k)
    (hstep : ∀ k s s', Needs k s → Step p g s s' → ∃ k' < k, Needs k' s')
    {fuel k : Nat} {s : Progress φ σ} (hs : Needs k s) (hk : k ≤ fuel) :
    (iterate p g fuel s).1 ≠ .error .exhausted := by
  induction fuel generalizing k s with
  | zero =>
    have hlen := hwait k s hs
    obtain ⟨sol, _ | ⟨n, rest⟩, c⟩ := s
    · rw [iterate_nil]
      exact nofun
    · rw [List.length_cons] at hlen
      omega
  | succ fuel ih =>
    obtain ⟨sol, _ | ⟨n, rest⟩, c⟩ := s
    · rw [iterate_nil]
      exact nofun
    · rw [iterate_succ]
      split
      · next e c' he =>
        obtain ⟨cause, rfl, -⟩ := transfer_of_evaluate he
        exact nofun
      · next s' c' he =>
        obtain ⟨k', hk', hs'⟩ := hstep k _ s' hs (step_of_evaluate rfl he)
        exact ih hs' (by omega)

/-- With a transfer that never fails, solving on a graph without defects can only fail by running
out of evaluations. -/
theorem solve_ok_of_ne_exhausted {p : Problem φ σ ε} {f : Vertex → φ → φ} (hp : p.Computes f)
    {g : Graph} (hg : g.defect? = none) {fuel : Nat} {client : σ}
    (h : (solve p g fuel client).1 ≠ .error .exhausted) :
    ∃ sol, (solve p g fuel client).1 = .ok sol := by
  rw [solve, hg] at h ⊢
  dsimp only at h ⊢
  have hends := iterate_ends p g fuel (start p g client)
  generalize iterate p g fuel (start p g client) = r at h hends ⊢
  cases hends with
  | solved hrun hqueue => exact ⟨_, rfl⟩
  | @failed t n rest cause c hrun hqueue ht =>
    have hpure := hp n (inflow p g t.solution.after n) t.client
    rw [ht] at hpure
    cases hpure
  | exhausted hrun hqueue => exact absurd rfl h

/-! ## The evaluations -/

/-- Every step is one evaluation. -/
theorem Step.evaluations {p : Problem φ σ ε} {g : Graph} {s s' : Progress φ σ}
    (h : Step p g s s') : s'.solution.evaluations = s.solution.evaluations + 1 := by
  cases h with
  | keep ht he => rfl
  | change ht he => rfl

/-- No more evaluations are made than are allowed. -/
theorem evaluations_le_of_iterate {p : Problem φ σ ε} {g : Graph} {fuel : Nat} {s : Progress φ σ}
    {sol : Solution φ} (h : (iterate p g fuel s).1 = .ok sol) :
    sol.evaluations ≤ s.solution.evaluations + fuel := by
  induction fuel generalizing s with
  | zero =>
    obtain ⟨sol', _ | ⟨n, rest⟩, c⟩ := s
    · rw [iterate_nil] at h
      cases h
      exact le_rfl
    · cases h
  | succ fuel ih =>
    obtain ⟨sol', _ | ⟨n, rest⟩, c⟩ := s
    · rw [iterate_nil] at h
      cases h
      exact Nat.le_add_right _ _
    · rw [iterate_succ] at h
      split at h
      · cases h
      · next s' c' he =>
        have hstep : Step p g ⟨sol', n :: rest, c⟩ s' := step_of_evaluate rfl he
        have hrest := ih h
        rw [hstep.evaluations] at hrest
        dsimp only at hrest ⊢
        omega

/-- More evaluations than suffice change nothing. -/
theorem iterate_of_le {p : Problem φ σ ε} {g : Graph} {fuel fuel' : Nat} {s : Progress φ σ}
    (h : (iterate p g fuel s).1 ≠ .error .exhausted) (hle : fuel ≤ fuel') :
    iterate p g fuel' s = iterate p g fuel s := by
  induction fuel generalizing fuel' s with
  | zero =>
    obtain ⟨sol, _ | ⟨n, rest⟩, c⟩ := s
    · rw [iterate_nil, iterate_nil]
    · exact absurd rfl h
  | succ fuel ih =>
    obtain ⟨sol, _ | ⟨n, rest⟩, c⟩ := s
    · rw [iterate_nil, iterate_nil]
    · obtain ⟨fuel', rfl⟩ : ∃ k, fuel' = k + 1 := ⟨fuel' - 1, by omega⟩
      rw [iterate_succ] at h ⊢
      rw [iterate_succ]
      generalize evaluate p g n ⟨sol, rest, c⟩ = r at h ⊢
      rcases r with ⟨e | s', c'⟩
      · rfl
      · exact ih h (by omega)

/-- A solution is found in no more evaluations than are allowed. -/
theorem evaluations_le {p : Problem φ σ ε} {g : Graph} {fuel : Nat} {client : σ}
    {sol : Solution φ} (h : (solve p g fuel client).1 = .ok sol) : sol.evaluations ≤ fuel := by
  unfold solve at h
  split at h
  · cases h
  · have hle := evaluations_le_of_iterate h
    rwa [show (start p g client).solution.evaluations = 0 from rfl, Nat.zero_add] at hle

/-- **More evaluations than suffice change nothing**, whether solving succeeds or not. -/
theorem solve_of_le {p : Problem φ σ ε} {g : Graph} {fuel fuel' : Nat} {client : σ}
    (h : (solve p g fuel client).1 ≠ .error .exhausted) (hle : fuel ≤ fuel') :
    solve p g fuel' client = solve p g fuel client := by
  unfold solve at h ⊢
  split at h
  · rfl
  · exact iterate_of_le h hle

end LeakCheck.Dataflow
