import LeakCheck.Proofs.Dataflow.Equations
import Mathlib.Algebra.BigOperators.Ring.List
import Mathlib.Algebra.Order.BigOperators.Group.List
import Mathlib.Algebra.Order.Group.Nat
import Mathlib.Algebra.Ring.Nat
import Mathlib.Order.BoundedOrder.Basic

/-!
# Growth and termination

Flow values are compared through what they mean: `Lattice.Models` says that a function `γ` into a
join-semilattice takes the operations on flow values to its own, so that two values may have the
same meaning without being equal. If the transfer is monotone in the meaning, the stored values
only rise (`Rising`), and if the meanings that can arise form no long ascending chain (`Climb`),
solving ends within `evaluationBound`, with a solution if the transfer never fails
(`solve_ok_of_height`) and at the latest where it fails otherwise (`solve_ne_exhausted`). The
invariant behind both is that the stored value leaving a vertex is below what a new evaluation would
give.

`Visits.values` is the other induction that clients of the solver need: what holds of the first
value and is kept by merge and transfer holds of every value ever stored.
-/

namespace LeakCheck.Dataflow

section
variable {φ σ ε : Type} {p : Problem φ σ ε} {f : Vertex → φ → φ} {g : Graph}

/-- **What merge and transfer keep holds of every value.** `P n` is kept for the values that enter
`n` and `Q n` for those that leave it. -/
theorem Visits.values (hp : p.Computes f) (hg : g.WellFormed) {P Q : Vertex → φ → Prop}
    (hP : ∀ n, P n p.lattice.bottom) (hQ : ∀ n, Q n p.lattice.bottom)
    (hin : ∀ n ∈ g.reachable, ∀ after : Assignment φ, (∀ m, Q m (after.get m)) →
      P n (inflow p g after n))
    (hout : ∀ n ∈ g.reachable, ∀ x, P n x → Q n (f n x)) {client : σ} {s : Progress φ σ}
    (h : Visits p g client s) :
    ∀ n, P n (s.solution.before.get n) ∧ Q n (s.solution.after.get n) := by
  induction h with
  | refl => exact fun n => ⟨hP n, hQ n⟩
  | tail hrun hstep ih =>
    have hqueue := (Visits.settled hp hg hrun).queue_reachable
    intro m
    cases hstep with
    | @keep before after k n rest y c c' ht he =>
      have hn := hin n (hqueue n (by simp)) after fun m => (ih m).2
      refine ⟨?_, (ih m).2⟩
      dsimp only
      rw [Assignment.get_set]
      split
      · next hmn => exact hmn ▸ hn
      · exact (ih m).1
    | @change before after k n rest y c c' ht he =>
      have hn := hin n (hqueue n (by simp)) after fun m => (ih m).2
      have hy := hp.eq_of_transfer ht ▸ hout n (hqueue n (by simp)) _ hn
      dsimp only
      rw [Assignment.get_set, Assignment.get_set]
      split
      · next hmn =>
        subst hmn
        exact ⟨hn, hy⟩
      · exact ih m

/-! ## Meanings -/

variable {β : Type} [SemilatticeSup β] [OrderBot β] {γ : φ → β}

/-- The operations on flow values are those of a join-semilattice, up to the meaning `γ`. -/
structure Lattice.Models (L : Lattice φ) (γ : φ → β) : Prop where
  /-- The first value means the least element. -/
  bottom : γ L.bottom = ⊥
  /-- Merging is the least upper bound. -/
  merge : ∀ x y, γ (L.merge x y) = γ x ⊔ γ y
  /-- The comparison decides equality of meanings. -/
  equal : ∀ x y, L.equal x y = true ↔ γ x = γ y

/-- The more enters a vertex, the more leaves it. -/
def MonotoneIn (γ : φ → β) (f : Vertex → φ → φ) : Prop :=
  ∀ n x y, γ x ≤ γ y → γ (f n x) ≤ γ (f n y)

/-- Values merged into a first one mean their least upper bound. -/
theorem Lattice.Models.foldl_le_iff {L : Lattice φ} (hL : L.Models γ) (out : Vertex → φ)
    (ms : List Vertex) (x : φ) (b : β) :
    γ (ms.foldl (fun acc m => L.merge acc (out m)) x) ≤ b ↔
      γ x ≤ b ∧ ∀ m ∈ ms, γ (out m) ≤ b := by
  induction ms generalizing x with
  | nil => simp
  | cons m ms ih =>
    rw [List.foldl_cons, ih, hL.merge, sup_le_iff, and_assoc, List.forall_mem_cons]

/-- The value that enters a vertex when those of any family leave its predecessors; `inflow` is the
case of a family that is stored. -/
def arriving (p : Problem φ σ ε) (g : Graph) (out : Vertex → φ) (n : Vertex) : φ :=
  (g.preds n).foldl (fun acc m => p.lattice.merge acc (out m))
    (if n = g.entry then p.lattice.merge p.lattice.bottom p.lattice.entry else p.lattice.bottom)

/-- What enters a vertex means the least upper bound of what leaves its predecessors, and at the
entry of what enters the procedure. -/
theorem arriving_le_iff (hL : p.lattice.Models γ) (out : Vertex → φ) (n : Vertex) (b : β) :
    γ (arriving p g out n) ≤ b ↔
      (n = g.entry → γ p.lattice.entry ≤ b) ∧ ∀ m ∈ g.preds n, γ (out m) ≤ b := by
  rw [arriving, hL.foldl_le_iff]
  refine and_congr_left' ?_
  split
  · next hn => simp [hL.merge, hL.bottom, hn]
  · next hn => simp [hL.bottom, hn]

theorem inflow_le_iff (hL : p.lattice.Models γ) (after : Assignment φ) (n : Vertex) (b : β) :
    γ (inflow p g after n) ≤ b ↔
      (n = g.entry → γ p.lattice.entry ≤ b) ∧ ∀ m ∈ g.preds n, γ (after.get m) ≤ b :=
  arriving_le_iff hL after.get n b

/-- The more leaves the predecessors, the more enters. -/
theorem arriving_mono (hL : p.lattice.Models γ) {out out' : Vertex → φ}
    (h : ∀ m, γ (out m) ≤ γ (out' m)) (n : Vertex) :
    γ (arriving p g out n) ≤ γ (arriving p g out' n) := by
  obtain ⟨hentry, hpreds⟩ := (arriving_le_iff hL out' n _).1 (le_refl (γ (arriving p g out' n)))
  exact (arriving_le_iff hL out n _).2 ⟨hentry, fun m hm => (h m).trans (hpreds m hm)⟩

theorem inflow_mono (hL : p.lattice.Models γ) {after after' : Assignment φ}
    (h : ∀ m, γ (after.get m) ≤ γ (after'.get m)) (n : Vertex) :
    γ (inflow p g after n) ≤ γ (inflow p g after' n) :=
  arriving_mono hL h n

/-! ## Values only rise -/

/-- Nothing stored is above what an evaluation in the present state would give. -/
structure Rising (p : Problem φ σ ε) (g : Graph) (f : Vertex → φ → φ) (γ : φ → β)
    (sol : Solution φ) : Prop where
  before_le : ∀ n, γ (sol.before.get n) ≤ γ (inflow p g sol.after n)
  after_le : ∀ n ∈ g.reachable, γ (sol.after.get n) ≤ γ (f n (inflow p g sol.after n))

/-- The first values are below everything. -/
theorem Rising.start (hL : p.lattice.Models γ) (client : σ) :
    Rising p g f γ (start p g client).solution where
  before_le _ := le_of_eq_of_le hL.bottom bot_le
  after_le _ _ := le_of_eq_of_le hL.bottom bot_le

omit [OrderBot β] in
/-- A step lowers no value that is stored. -/
theorem Step.values_le (hp : p.Computes f) {s s' : Progress φ σ}
    (hs : Rising p g f γ s.solution) (hqueue : ∀ n ∈ s.queue, n ∈ g.reachable)
    (hstep : Step p g s s') (m : Vertex) :
    γ (s.solution.before.get m) ≤ γ (s'.solution.before.get m) ∧
      γ (s.solution.after.get m) ≤ γ (s'.solution.after.get m) := by
  cases hstep with
  | @keep before after k n rest y c c' ht he =>
    refine ⟨?_, le_rfl⟩
    dsimp only
    rw [Assignment.get_set]
    split
    · next hmn => exact hmn ▸ hs.before_le m
    · exact le_rfl
  | @change before after k n rest y c c' ht he =>
    dsimp only
    rw [Assignment.get_set, Assignment.get_set]
    split
    · next hmn =>
      subst hmn
      have hle := hs.after_le m (hqueue m (by simp))
      rw [hp.eq_of_transfer ht] at hle
      exact ⟨hs.before_le m, hle⟩
    · exact ⟨le_rfl, le_rfl⟩

/-- **A step keeps stored values below new ones**, since evaluations are monotone in what is
stored. -/
theorem Rising.step (hp : p.Computes f) (hL : p.lattice.Models γ) (hf : MonotoneIn γ f)
    {s s' : Progress φ σ} (hs : Rising p g f γ s.solution)
    (hqueue : ∀ n ∈ s.queue, n ∈ g.reachable) (hstep : Step p g s s') :
    Rising p g f γ s'.solution := by
  have hin := inflow_mono (g := g) hL fun m => (hstep.values_le hp hs hqueue m).2
  cases hstep with
  | @keep before after k n rest y c c' ht he =>
    refine ⟨fun m => ?_, hs.after_le⟩
    dsimp only
    rw [Assignment.get_set]
    split
    · next hmn => exact hmn ▸ le_rfl
    · exact hs.before_le m
  | @change before after k n rest y c c' ht he =>
    refine ⟨fun m => ?_, fun m hm => ?_⟩
    · dsimp only
      rw [Assignment.get_set]
      split
      · next hmn => exact hmn ▸ hin m
      · exact (hs.before_le m).trans (hin m)
    · dsimp only
      rw [Assignment.get_set]
      split
      · next hmn =>
        subst hmn
        calc γ y = γ (f m (inflow p g after m)) := by rw [hp.eq_of_transfer ht]
          _ ≤ γ (f m (inflow p g (after.set m y) m)) := hf m _ _ (hin m)
      · exact (hs.after_le m hm).trans (hf m _ _ (hin m))

omit [OrderBot β] in
/-- A value that was found to differ from what is stored is above it. -/
theorem Rising.lt_of_change (hp : p.Computes f)
    (heq : ∀ x y, p.lattice.equal x y = true ↔ γ x = γ y)
    {sol : Solution φ} (hs : Rising p g f γ sol) {n : Vertex} (hn : n ∈ g.reachable) {y : φ}
    {c c' : σ} (ht : p.transfer n (inflow p g sol.after n) c = (.ok y, c'))
    (he : p.lattice.equal y (sol.after.get n) = false) : γ (sol.after.get n) < γ y := by
  have hle := hs.after_le n hn
  rw [hp.eq_of_transfer ht] at hle
  refine lt_of_le_of_ne hle fun hsame => ?_
  rw [(heq y (sol.after.get n)).2 hsame.symm] at he
  cases he

/-- In every state that a solver passes through nothing stored is above a new evaluation. -/
theorem Visits.rising (hp : p.Computes f) (hg : g.WellFormed) (hL : p.lattice.Models γ)
    (hf : MonotoneIn γ f) {client : σ} {s : Progress φ σ} (h : Visits p g client s) :
    Rising p g f γ s.solution := by
  induction h with
  | refl => exact .start hL client
  | tail hrun hstep ih =>
    exact ih.step hp hL hf (Visits.settled hp hg hrun).queue_reachable hstep

/-! ## Chains and the end of a run -/

/-- `Climb Good k b`: some strictly ascending chain of `k` steps leads from the least element to
`b`, and all it reaches is `Good`. -/
inductive Climb (Good : β → Prop) : Nat → β → Prop
  | bot : Climb Good 0 ⊥
  | step {k : Nat} {a b : β} : Climb Good k a → a < b → Good b → Climb Good (k + 1) b

/-- A sum drops at least as much as one of its terms, if no other rises. -/
theorem sum_map_add_le {α : Type} {a b : α → Nat} {n : α} {d : Nat} {l : List α}
    (hle : ∀ m ∈ l, a m ≤ b m) (hn : n ∈ l) (hd : a n + d ≤ b n) :
    (l.map a).sum + d ≤ (l.map b).sum := by
  induction l with
  | nil => cases hn
  | cons m l ih =>
    rw [List.map_cons, List.map_cons, List.sum_cons, List.sum_cons]
    have hm := hle m (by simp)
    rcases List.mem_cons.1 hn with rfl | hn
    · have hrest : (l.map a).sum ≤ (l.map b).sum :=
        List.sum_le_sum fun k hk => hle k (List.mem_cons_of_mem n hk)
      omega
    · have hrest := ih (fun k hk => hle k (List.mem_cons_of_mem m hk)) hn
      omega

/-- The evaluations that changes can still cause, when the value leaving each vertex has climbed
`climbed` steps of at most `height`: each further step queues the successors once. -/
def remaining (g : Graph) (height : Nat) (climbed : Vertex → Nat) : Nat :=
  (g.reachable.map fun n => (height - climbed n) * (g.succs n).length).sum

/-- A change uses up what it causes. -/
theorem remaining_update {height : Nat} (climbed : Vertex → Nat) {n : Vertex}
    (hn : n ∈ g.reachable) (hc : climbed n + 1 ≤ height) :
    remaining g height (Function.update climbed n (climbed n + 1)) + (g.succs n).length ≤
      remaining g height climbed := by
  refine sum_map_add_le (fun m _ => ?_) hn ?_
  · by_cases hmn : m = n
    · subst hmn
      rw [Function.update_self]
      exact Nat.mul_le_mul_right _ (by omega)
    · rw [Function.update_of_ne hmn]
  · have hstep : height - climbed n = height - (climbed n + 1) + 1 := by omega
    rw [Function.update_self, hstep, Nat.succ_mul]

/-- `s` is a state of the run, and `k` evaluations suffice for what waits in it and for all changes
that the height still allows. -/
def Needs (p : Problem φ σ ε) (g : Graph) (γ : φ → β) (Good : β → Prop) (height : Nat)
    (client : σ) (k : Nat) (s : Progress φ σ) : Prop :=
  Visits p g client s ∧ ∃ climbed : Vertex → Nat,
    (∀ n, Climb Good (climbed n) (γ (s.solution.after.get n))) ∧
      s.queue.length + remaining g height climbed ≤ k

/-- At first the bound on the evaluations suffices. -/
theorem Needs.start (hL : p.lattice.Models γ) (Good : β → Prop) (height : Nat) (client : σ) :
    Needs p g γ Good height client (evaluationBound g height) (start p g client) := by
  refine ⟨.refl, fun _ => 0, fun n => ?_, ?_⟩
  · show Climb Good 0 (γ p.lattice.bottom)
    rw [hL.bottom]
    exact .bot
  · have hqueue := length_pushAll_le [] g.reachable
    have hsum : remaining g height (fun _ => 0) = height * reachableEdges g := by
      simp only [remaining, reachableEdges, Nat.sub_zero, List.length_flatMap]
      exact List.sum_map_mul_left g.reachable (fun n => (g.succs n).length) height
    rw [List.length_nil] at hqueue
    rw [hsum, evaluationBound]
    show (pushAll [] g.reachable).length + _ ≤ _
    omega

/-- **Each step needs one evaluation fewer.** If the value that leaves the vertex does not change,
the queue gets shorter; if it does, it climbs by a step, and that was accounted for. -/
theorem Needs.step (hp : p.Computes f) (hg : g.WellFormed) (hL : p.lattice.Models γ)
    (hf : MonotoneIn γ f) {Good : β → Prop} {height : Nat} {client : σ}
    (hgood : ∀ s, Visits p g client s → ∀ n ∈ g.reachable,
      Good (γ (f n (inflow p g s.solution.after n))))
    (hheight : ∀ k b, Climb Good k b → k ≤ height) {k : Nat} {s s' : Progress φ σ}
    (h : Needs p g γ Good height client k s) (hstep : Step p g s s') :
    ∃ k' < k, Needs p g γ Good height client k' s' := by
  obtain ⟨hrun, climbed, hclimb, hk⟩ := h
  have hqueue := (Visits.settled hp hg hrun).queue_reachable
  have hrising := Visits.rising hp hg hL hf hrun
  have hnext : Visits p g client s' := hrun.tail hstep
  cases hstep with
  | @keep before after j n rest y c c' ht he =>
    dsimp only at hk
    rw [List.length_cons] at hk
    refine ⟨k - 1, by omega, hnext, climbed, hclimb, ?_⟩
    show rest.length + _ ≤ _
    omega
  | @change before after j n rest y c c' ht he =>
    have hn := hqueue n (by simp)
    have hy := hp.eq_of_transfer ht
    have hlt : γ (after.get n) < γ y := hrising.lt_of_change hp hL.equal hn ht he
    have hup : Climb Good (climbed n + 1) (γ y) := .step (hclimb n) hlt (hy ▸ hgood _ hrun n hn)
    have hspent := remaining_update climbed hn (hheight _ _ hup)
    have hpushed := length_pushAll_le rest (g.succs n)
    dsimp only at hk
    rw [List.length_cons] at hk
    refine ⟨k - 1, by omega, hnext, Function.update climbed n (climbed n + 1), fun m => ?_, ?_⟩
    · dsimp only
      rw [Assignment.get_set]
      by_cases hmn : m = n
      · subst hmn
        rw [if_pos rfl, Function.update_self]
        exact hup
      · rw [if_neg hmn, Function.update_of_ne hmn]
        exact hclimb m
    · show (pushAll rest (g.succs n)).length + _ ≤ _
      omega

/-- **The bound on the evaluations suffices.** On a graph without defects, with a transfer that is
monotone where it succeeds, solving does not run out of evaluations, if no chain of the meanings
that arise is longer than `height`. That the transfer is monotone is said of a problem `q` that
never fails and does the same where `p` succeeds. -/
theorem solve_ne_exhausted {δ : Type} {q : Problem φ σ δ} (hpq : p.Restricts q)
    (hq : q.Computes f) (hL : q.lattice.Models γ) (hf : MonotoneIn γ f) {Good : β → Prop}
    {height : Nat} {client : σ}
    (hgood : ∀ s, Visits q g client s → ∀ n ∈ g.reachable,
      Good (γ (f n (inflow q g s.solution.after n))))
    (hheight : ∀ k b, Climb Good k b → k ≤ height) {fuel : Nat}
    (hfuel : evaluationBound g height ≤ fuel) :
    (solve p g fuel client).1 ≠ .error .exhausted := by
  unfold solve
  split
  · exact nofun
  · next hg =>
    have hstart := Needs.start (g := g) hL Good height client
    rw [← hpq.start_eq] at hstart
    have hwait : ∀ k s, Needs q g γ Good height client k s → s.queue.length ≤ k := by
      rintro k s ⟨-, climbed, -, hk⟩
      omega
    have hstep : ∀ k s s', Needs q g γ Good height client k s → Step p g s s' →
        ∃ k' < k, Needs q g γ Good height client k' s' := by
      intro k s s' hs hstep
      exact hs.step hq (.of_defect? hg) hL hf hgood hheight (hpq.step hstep)
    exact iterate_ne_exhausted hwait hstep hstart hfuel

/-- **Solving ends.** On a graph without defects, with a transfer that never fails and is monotone,
solving succeeds within the bound on the evaluations, if no chain of the meanings that arise is
longer than `height`. -/
theorem solve_ok_of_height (hp : p.Computes f) (hL : p.lattice.Models γ) (hf : MonotoneIn γ f)
    {Good : β → Prop} {height : Nat} {client : σ} (hg : g.defect? = none)
    (hgood : ∀ s, Visits p g client s → ∀ n ∈ g.reachable,
      Good (γ (f n (inflow p g s.solution.after n))))
    (hheight : ∀ k b, Climb Good k b → k ≤ height) {fuel : Nat}
    (hfuel : evaluationBound g height ≤ fuel) :
    ∃ sol, (solve p g fuel client).1 = .ok sol :=
  solve_ok_of_ne_exhausted hp hg
    (solve_ne_exhausted (.refl p) hp hL hf hgood hheight hfuel)

end

end LeakCheck.Dataflow
