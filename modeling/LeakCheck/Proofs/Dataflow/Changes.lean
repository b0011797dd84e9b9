import LeakCheck.Proofs.Dataflow.Growth
import Mathlib.Algebra.BigOperators.Group.Finset.Basic
import Mathlib.Data.Fintype.Order
import Mathlib.Order.CompletePartialOrder

/-!
# The changes of a vertex

Over a join-semilattice of finite height, with a monotone transfer, solving ends, and the changes
that are announced of one vertex lead from the least value upwards to the value that is returned for
it (`solve_ascends`). The changes are read off the log of the calls: `Ascends` is the invariant that
relates the log to what is stored, and `Visits.ascends` says that every run keeps it.
-/

namespace LeakCheck.Dataflow

section
variable {φ σ ε : Type}

/-- The announced changes of the value leaving `n`, with the old and the new value. -/
def changesAt (n : Vertex) (calls : List (Call φ)) : List (φ × φ) :=
  calls.filterMap fun
    | .change m old new => if m = n then some (old, new) else none
    | .transfer _ _ => none

theorem changesAt_append (n : Vertex) (calls calls' : List (Call φ)) :
    changesAt n (calls ++ calls') = changesAt n calls ++ changesAt n calls' :=
  List.filterMap_append

/-- `Ascends x changes y`: the changes lead from `x` to `y`, each from the value that the one before
it led to, and each to a larger one. -/
def Ascends [LT φ] (x : φ) : List (φ × φ) → φ → Prop
  | [], y => x = y
  | (old, new) :: rest, y => old = x ∧ old < new ∧ Ascends new rest y

/-- Another change may follow from where the others led to. -/
theorem Ascends.concat [LT φ] {x y z : φ} {changes : List (φ × φ)} (h : Ascends x changes y)
    (hlt : y < z) : Ascends x (changes ++ [(y, z)]) z := by
  induction changes generalizing x with
  | nil =>
    cases h
    exact ⟨rfl, hlt, rfl⟩
  | cons c rest ih =>
    obtain ⟨hold, hup, hrest⟩ := h
    exact ⟨hold, hup, ih hrest⟩

variable {p : Problem φ σ ε} {f : Vertex → φ → φ} {g : Graph} [SemilatticeSup φ] [OrderBot φ]

/-- In every state that a solver passes through, the logged changes of a vertex lead from the first
value to the one that is stored. -/
theorem Visits.ascends (hp : p.Computes f) (hg : g.WellFormed)
    (hL : p.lattice.Models (id : φ → φ)) (hf : MonotoneIn id f) {client : σ}
    {s : Progress φ (σ × List (Call φ))} (h : Visits p.logged g (client, []) s) (m : Vertex) :
    Ascends p.lattice.bottom (changesAt m s.client.2) (s.solution.after.get m) := by
  induction h with
  | refl => exact rfl
  | tail hrun hstep ih =>
    have hqueue := (Visits.settled hp.logged hg hrun).queue_reachable
    have hrising := Visits.rising hp.logged hg hL hf hrun
    cases hstep with
    | @keep before after k n rest y c c' ht he =>
      dsimp only at ih ⊢
      rw [Problem.log_of_transfer ht, changesAt_append]
      exact (List.append_nil _).symm ▸ ih
    | @change before after k n rest y c c' ht he =>
      have hlt : after.get n < y :=
        hrising.lt_of_change hp.logged hL.equal (hqueue n (by simp)) ht he
      have hlog : changesAt m (p.logged.onChange n (after.get n) y c').2 =
          changesAt m c.2 ++ if n = m then [(after.get n, y)] else [] := by
        rw [Problem.log_of_change ht, changesAt_append, changesAt_append]
        by_cases hnm : n = m
        · simp [changesAt, hnm]
        · simp [changesAt, hnm]
      dsimp only at ih ⊢
      rw [hlog, Assignment.get_set]
      by_cases hnm : n = m
      · subst hnm
        rw [if_pos rfl, if_pos rfl]
        exact ih.concat hlt
      · rw [if_neg hnm, if_neg (Ne.symm hnm), List.append_nil]
        exact ih

end

/-! ## The bound on the evaluations -/

/-- A climb is a strictly ascending list. -/
theorem Climb.exists_chain {β : Type} [SemilatticeSup β] [OrderBot β] {Good : β → Prop} {k : Nat}
    {b : β} (h : Climb Good k b) :
    ∃ xs : List β, xs.length = k ∧ (⊥ :: xs).IsChain (· < ·) ∧ (⊥ :: xs).getLast? = some b := by
  induction h with
  | bot => exact ⟨[], rfl, List.isChain_singleton ⊥, rfl⟩
  | @step k a b _ hlt _ ih =>
    obtain ⟨xs, hlen, hchain, hlast⟩ := ih
    refine ⟨xs ++ [b], by simp [hlen], ?_, ?_⟩
    · rw [← List.cons_append, List.isChain_append]
      refine ⟨hchain, List.isChain_singleton b, ?_⟩
      intro x hx y hy
      rw [hlast, Option.mem_some_iff] at hx
      rw [List.head?_cons, Option.mem_some_iff] at hy
      rw [← hx, ← hy]
      exact hlt
    · rw [← List.cons_append, List.getLast?_concat]

/-- The listed reachable vertices are the set of those that are reached. -/
theorem mem_toFinset_reachable {g : Graph} (hg : g.WellFormed) (n : Vertex) :
    n ∈ g.reachable.toFinset ↔ g.Reached n := by
  rw [List.mem_toFinset, hg.mem_reachable_iff]

theorem eq_toFinset_reachable {g : Graph} (hg : g.WellFormed) {R : Finset Vertex}
    (hR : ∀ n, n ∈ R ↔ g.Reached n) : R = g.reachable.toFinset := by
  ext n
  rw [hR, mem_toFinset_reachable hg]

/-- The bound on the evaluations counts the vertices that are reached and, as often as a value can
change, the edges that leave them. -/
theorem evaluationBound_eq {g : Graph} (hg : g.WellFormed) (height : Nat) {R : Finset Vertex}
    (hR : ∀ n, n ∈ R ↔ g.Reached n) :
    evaluationBound g height = R.card + height * ∑ n ∈ R, (g.succs n).length := by
  rw [eq_toFinset_reachable hg hR, List.toFinset_card_of_nodup hg.nodup_reachable,
    List.sum_toFinset _ hg.nodup_reachable, evaluationBound, reachableEdges, List.length_flatMap]

section
variable {φ σ ε : Type} [SemilatticeSup φ] [OrderBot φ] {p : Problem φ σ ε} {f : Vertex → φ → φ}
  {g : Graph}

/-- **Solving ends, and values only grow.** Let the operations on flow values be those of a
join-semilattice in which no strictly ascending chain from the least value has more than `height`
steps, and let the transfer never fail and be monotone. Then solving on a graph without defects
succeeds, with one solution and one list of calls however many evaluations are allowed beyond the
bound. The changes that are announced of a vertex ascend from the first value to the one that is
returned, and there are no more evaluations than reached vertices and, `height` times, the edges
that leave them. -/
theorem solve_ascends (hp : p.Computes f) (hL : p.lattice.Models (id : φ → φ))
    (hf : ∀ n, Monotone (f n)) {height : Nat}
    (hheight : ∀ xs : List φ, (⊥ :: xs).IsChain (· < ·) → xs.length ≤ height)
    (hg : g.defect? = none) (client : σ) :
    ∃ sol c log,
      (∀ fuel, evaluationBound g height ≤ fuel →
        solve p g fuel client = (.ok sol, c) ∧ calls p g fuel client = log) ∧
      (∀ n, Ascends p.lattice.bottom (changesAt n log) (sol.after.get n)) ∧
      ∀ R : Finset Vertex, (∀ n, n ∈ R ↔ g.Reached n) →
        sol.evaluations ≤ R.card + height * ∑ n ∈ R, (g.succs n).length := by
  have hwf := Graph.WellFormed.of_defect? hg
  have hf' : MonotoneIn id f := fun n _ _ hxy => hf n hxy
  have hclimb : ∀ k b, Climb (fun _ : φ => True) k b → k ≤ height := by
    intro k b hk
    obtain ⟨xs, rfl, hchain, -⟩ := hk.exists_chain
    exact hheight xs hchain
  obtain ⟨sol, hsol⟩ :
      ∃ sol, (solve p.logged g (evaluationBound g height) (client, [])).1 = .ok sol :=
    solve_ok_of_height hp.logged hL hf' hg (fun _ _ _ _ => trivial) hclimb le_rfl
  have hsolve : solve p.logged g (evaluationBound g height) (client, []) =
      (.ok sol, (solve p.logged g (evaluationBound g height) (client, [])).2) := Prod.ext hsol rfl
  obtain ⟨-, t, ht, -, rfl, hclient⟩ := solve_ok hsolve
  rw [← hclient] at hsolve
  refine ⟨t.solution, t.client.1, t.client.2, fun fuel hfuel => ?_, fun n => ?_, fun R hR => ?_⟩
  · have hmore := solve_of_le (by rw [hsol]; exact nofun) hfuel
    rw [hsolve] at hmore
    rw [p.logged_extends.solve_eq g fuel (client, []), calls, hmore]
    exact ⟨rfl, rfl⟩
  · exact Visits.ascends hp hwf hL hf' ht n
  · rw [← evaluationBound_eq hwf height hR]
    exact evaluations_le hsol

end

/-! ## Counting around a loop -/

namespace Standard

/-- The numbers up to three under the maximum, with a transfer that never fails. -/
def upToThree (f : Vertex → Fin 4 → Fin 4) : Problem (Fin 4) Unit Empty where
  lattice := ⟨0, 0, max, (· == ·)⟩
  transfer n x c := (.ok (f n x), c)
  onChange _ _ _ c := c

theorem upToThree_computes (f : Vertex → Fin 4 → Fin 4) : (upToThree f).Computes f :=
  fun _ _ _ => rfl

theorem upToThree_models (f : Vertex → Fin 4 → Fin 4) :
    (upToThree f).lattice.Models (id : Fin 4 → Fin 4) where
  bottom := rfl
  merge _ _ := rfl
  equal _ _ := beq_iff_eq

/-- A strictly ascending chain of numbers up to three has at most three steps. -/
theorem upToThree_height (xs : List (Fin 4)) (h : (⊥ :: xs).IsChain (· < ·)) : xs.length ≤ 3 := by
  have hnodup : (⊥ :: xs).Nodup := (List.isChain_iff_pairwise.1 h).imp ne_of_lt
  have hcard := hnodup.length_le_card
  rw [List.length_cons, Fintype.card_fin] at hcard
  omega

/-- The vertex `0` of the loop adds one to what is below the limit. -/
def countUpTo (limit : Fin 4) (n : Vertex) (x : Fin 4) : Fin 4 :=
  if n = some ⟨0, "a", 0⟩ then (if x < limit then x + 1 else x) else x

theorem countUpTo_monotone (limit : Fin 4) (n : Vertex) : Monotone (countUpTo limit n) := by
  intro x y hxy
  unfold countUpTo
  split
  · revert limit x y
    decide
  · exact hxy

/-- Counting to three around the loop ends within eight evaluations, and the value of the vertex `0`
goes through all the numbers. -/
theorem loop_ascends :
    ∃ sol c log, solve (upToThree (countUpTo 3)) loopGraph 8 () = (.ok sol, c) ∧
      changesAt (some ⟨0, "a", 0⟩) log = [(0, 1), (1, 2), (2, 3)] ∧
      Ascends 0 (changesAt (some ⟨0, "a", 0⟩) log) (sol.after.get (some ⟨0, "a", 0⟩)) ∧
      sol.evaluations ≤ 2 + 3 * 2 := by
  have hg : loopGraph.defect? = none := by decide
  obtain ⟨sol, c, log, hsolve, hasc, hle⟩ := solve_ascends (upToThree_computes (countUpTo 3))
    (upToThree_models _) (countUpTo_monotone 3) upToThree_height hg ()
  obtain ⟨hsol, hlog⟩ := hsolve 8 (by decide)
  have hR := mem_toFinset_reachable (.of_defect? hg)
  refine ⟨sol, c, log, hsol, ?_, hasc _, hle _ hR⟩
  rw [← hlog]
  decide

end Standard

end LeakCheck.Dataflow
