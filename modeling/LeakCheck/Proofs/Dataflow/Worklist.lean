import LeakCheck.Proofs.Dataflow.Clients

/-!
# A worklist with marks

`push` looks for a vertex in the queue before it adds it. A `Worklist` does not look there: it keeps
a mark for every vertex that waits, sets it when the vertex is added and takes it away when the
vertex is taken out. A stale mark would keep a vertex from being evaluated again, and a missing one
would have it wait twice. Neither happens: a worklist stays `Faithful`, that is, no vertex waits
twice and the marked vertices are those that wait. So solving with marks is solving
(`Worklist.solve_eq`), with the same calls in the same order (`Worklist.solve_logged`).
-/

namespace LeakCheck.Dataflow

/-- The vertices that wait for their evaluation, with a mark for each of them. -/
structure Worklist where
  /-- The vertices in the order in which they are taken out. -/
  queue : List Vertex := []
  /-- The vertices with a mark. -/
  pending : Assignment Bool := .const false

namespace Worklist

/-- Adds a vertex to the end unless it has a mark. -/
def push (w : Worklist) (n : Vertex) : Worklist :=
  if w.pending.get n then w else ⟨w.queue ++ [n], w.pending.set n true⟩

/-- Adds vertices to the end, one after the other. -/
def pushAll (w : Worklist) (ns : List Vertex) : Worklist := ns.foldl push w

/-- Takes the first vertex out, and its mark away. -/
def pop? (w : Worklist) : Option (Vertex × Worklist) :=
  match w.queue with
  | [] => none
  | n :: rest => some (n, ⟨rest, w.pending.set n false⟩)

/-- No vertex waits twice, and the marks are those of the vertices that wait. -/
structure Faithful (w : Worklist) : Prop where
  nodup : w.queue.Nodup
  marked : ∀ n, w.pending.get n = true ↔ n ∈ w.queue

section
variable {w : Worklist} {n : Vertex}

theorem Faithful.empty : Faithful {} where
  nodup := List.nodup_nil
  marked n := by simp

theorem Faithful.queue_push (h : w.Faithful) (n : Vertex) :
    (w.push n).queue = Dataflow.push w.queue n := by
  by_cases hn : n ∈ w.queue
  · rw [push, if_pos ((h.marked n).2 hn), Dataflow.push, if_pos hn]
  · rw [push, if_neg fun hmark => hn ((h.marked n).1 hmark), Dataflow.push, if_neg hn]

theorem Faithful.push (h : w.Faithful) (n : Vertex) : (w.push n).Faithful := by
  by_cases hn : w.pending.get n = true
  · rw [Worklist.push, if_pos hn]
    exact h
  · have hnew : n ∉ w.queue := fun hmem => hn ((h.marked n).2 hmem)
    rw [Worklist.push, if_neg hn]
    refine ⟨?_, fun m => ?_⟩
    · rw [← List.concat_eq_append]
      exact h.nodup.concat hnew
    · rw [Assignment.get_set, List.mem_append, List.mem_singleton, ← h.marked m]
      by_cases hm : m = n
      · simp [hm]
      · simp [hm]

theorem Faithful.pushAll (h : w.Faithful) (ns : List Vertex) :
    (w.pushAll ns).Faithful ∧ (w.pushAll ns).queue = Dataflow.pushAll w.queue ns := by
  induction ns generalizing w with
  | nil => exact ⟨h, rfl⟩
  | cons n ns ih =>
    obtain ⟨hfaithful, hqueue⟩ := ih (h.push n)
    refine ⟨hfaithful, hqueue.trans ?_⟩
    rw [h.queue_push]
    rfl

/-- The mark that is taken away is not needed, for the vertex does not wait a second time. -/
theorem Faithful.pop {rest : List Vertex} {pending : Assignment Bool}
    (h : Faithful ⟨n :: rest, pending⟩) : Faithful ⟨rest, pending.set n false⟩ := by
  obtain ⟨hn, hnodup⟩ := List.nodup_cons.1 h.nodup
  refine ⟨hnodup, fun m => ?_⟩
  have hmarked : pending.get m = true ↔ m = n ∨ m ∈ rest := (h.marked m).trans List.mem_cons
  rw [Assignment.get_set]
  by_cases hm : m = n
  · simp [hm, hn]
  · simpa [hm] using hmarked

end

variable {φ σ ε : Type}

/-- Evaluates the vertices of a worklist until none is left. -/
def iterate (p : Problem φ σ ε) (g : Graph) :
    (fuel : Nat) → Worklist → Solution φ → σ → Except (SolveError ε) (Solution φ) × σ
  | fuel, w, solution, client =>
    match w.pop?, fuel with
    | none, _ => (.ok solution, client)
    | some _, 0 => (.error .exhausted, client)
    | some (n, w), fuel + 1 =>
      match update p g n solution client with
      | (.error e, client) => (.error e, client)
      | (.ok (solution, next), client) => iterate p g fuel (w.pushAll next) solution client

/-- Solves a problem on a graph, with marks for the vertices that wait. -/
def solve (p : Problem φ σ ε) (g : Graph) (fuel : Nat) (client : σ) :
    Except (SolveError ε) (Solution φ) × σ :=
  match g.defect? with
  | some defect => (.error (.invalid defect), client)
  | none =>
    let least := Assignment.const p.lattice.bottom
    iterate p g fuel (pushAll {} g.reachable) ⟨least, least, 0⟩ client

theorem iterate_cons (p : Problem φ σ ε) (g : Graph) (fuel : Nat) (n : Vertex)
    (rest : List Vertex) (pending : Assignment Bool) (sol : Solution φ) (c : σ) :
    iterate p g (fuel + 1) ⟨n :: rest, pending⟩ sol c =
      match update p g n sol c with
      | (.error e, c) => (.error e, c)
      | (.ok (sol, next), c) =>
        iterate p g fuel (pushAll ⟨rest, pending.set n false⟩ next) sol c :=
  rfl

/-- From a worklist that is faithful, iterating with marks is iterating over its queue. -/
theorem Faithful.iterate_eq (p : Problem φ σ ε) (g : Graph) (fuel : Nat) {w : Worklist}
    (h : w.Faithful) (sol : Solution φ) (c : σ) :
    w.iterate p g fuel sol c = Dataflow.iterate p g fuel ⟨sol, w.queue, c⟩ := by
  induction fuel generalizing w sol c with
  | zero =>
    obtain ⟨_ | ⟨n, rest⟩, pending⟩ := w
    · rfl
    · rfl
  | succ fuel ih =>
    obtain ⟨_ | ⟨n, rest⟩, pending⟩ := w
    · rfl
    · rw [iterate_cons, iterate_succ, evaluate]
      rcases update p g n sol c with ⟨e | ⟨sol', next⟩, c'⟩
      · rfl
      · obtain ⟨hfaithful, hqueue⟩ := h.pop.pushAll next
        exact (ih hfaithful sol' c').trans (by rw [hqueue])

/-- **Marks change nothing.** Solving with a worklist that keeps marks is solving with a queue that
is searched. -/
theorem solve_eq (p : Problem φ σ ε) (g : Graph) (fuel : Nat) (c : σ) :
    solve p g fuel c = Dataflow.solve p g fuel c := by
  rw [solve, Dataflow.solve]
  cases g.defect? with
  | some defect => rfl
  | none =>
    obtain ⟨hfaithful, hqueue⟩ := Faithful.empty.pushAll g.reachable
    show iterate p g fuel _ _ c = _
    rw [hfaithful.iterate_eq, hqueue]
    rfl

/-- With marks a solver makes the same calls, in the same order, and comes to the same. -/
theorem solve_logged (p : Problem φ σ ε) (g : Graph) (fuel : Nat) (c : σ) :
    solve p.logged g fuel (c, []) =
      ((Dataflow.solve p g fuel c).1, (Dataflow.solve p g fuel c).2, calls p g fuel c) := by
  rw [solve_eq, p.logged_extends.solve_eq g fuel (c, [])]
  rfl

end Worklist

end LeakCheck.Dataflow
