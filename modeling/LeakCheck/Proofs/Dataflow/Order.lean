import LeakCheck.Proofs.Dataflow.Changes
import LeakCheck.Proofs.Dataflow.Worklist

/-!
# The order of evaluations

The reachable vertices wait first, in the order in which the graph lists them, and whatever has to
be evaluated again waits behind them. So the first evaluations are of these vertices in their order,
and a later one has a cause: between two evaluations of a vertex a predecessor of it has changed.
`Orderly` is the invariant that relates the queue to the log of the calls, with one lemma for each
kind of call (`Orderly.transfer`, `Orderly.change`), and `solve_evaluates_in_order` reads it at the
end of a run. A change in the log is one of the values that are stored (`Visits.stores`). Nothing is
asked of the operations on flow values but that the comparison decides equality.

If the reachable vertices are listed so that no edge leads back, the successors of a vertex that is
evaluated wait already, so the queue only gets shorter (`Step.queue_eq_tail`).
-/

namespace LeakCheck.Dataflow

/-! ## The queue -/

section
variable {queue ns : List Vertex}

theorem prefix_push (queue : List Vertex) (n : Vertex) : queue <+: push queue n := by
  unfold push
  split
  · exact List.prefix_rfl
  · exact List.prefix_append queue [n]

/-- What is added waits behind what waited before. -/
theorem prefix_pushAll (queue ns : List Vertex) : queue <+: pushAll queue ns := by
  induction ns generalizing queue with
  | nil => exact List.prefix_rfl
  | cons n ns ih => exact (prefix_push queue n).trans (ih (push queue n))

theorem nodup_push (h : queue.Nodup) (n : Vertex) : (push queue n).Nodup := by
  unfold push
  split
  · exact h
  · next hn =>
    rw [← List.concat_eq_append]
    exact List.Nodup.concat hn h

/-- No vertex waits twice. -/
theorem nodup_pushAll (h : queue.Nodup) (ns : List Vertex) : (pushAll queue ns).Nodup := by
  induction ns generalizing queue with
  | nil => exact h
  | cons n ns ih => exact ih (nodup_push h n)

/-- What waits already is not added. -/
theorem pushAll_eq_self (h : ∀ n ∈ ns, n ∈ queue) : pushAll queue ns = queue := by
  induction ns with
  | nil => rfl
  | cons n ns ih =>
    have hpush : push queue n = queue := if_pos (h n List.mem_cons_self)
    show pushAll (push queue n) ns = queue
    rw [hpush]
    exact ih fun m hm => h m (List.mem_cons_of_mem n hm)

/-- Distinct vertices that do not wait are added in their order. -/
theorem pushAll_eq_append (h : (queue ++ ns).Nodup) : pushAll queue ns = queue ++ ns := by
  induction ns generalizing queue with
  | nil => exact (List.append_nil queue).symm
  | cons n ns ih =>
    have hn : n ∉ queue := fun hmem => (List.nodup_append.1 h).2.2 n hmem n List.mem_cons_self rfl
    have hpush : push queue n = queue ++ [n] := if_neg hn
    show pushAll (push queue n) ns = queue ++ n :: ns
    rw [List.append_cons] at h ⊢
    rw [hpush, ih h]

end

/-! ## The calls of a run -/

section
variable {φ σ ε : Type}

/-- The vertices that are transferred through, in the order of the calls. -/
def transfers (calls : List (Call φ)) : List Vertex :=
  calls.filterMap fun
    | .transfer n _ => some n
    | .change _ _ _ => none

theorem transfers_append (calls calls' : List (Call φ)) :
    transfers (calls ++ calls') = transfers calls ++ transfers calls' :=
  List.filterMap_append

theorem mem_transfers {calls : List (Call φ)} {n : Vertex} :
    n ∈ transfers calls ↔ ∃ x, Call.transfer n x ∈ calls := by
  rw [transfers, List.mem_filterMap]
  constructor
  · rintro ⟨c, hc, h⟩
    cases c with
    | transfer m x =>
      cases h
      exact ⟨x, hc⟩
    | change => cases h
  · rintro ⟨x, hx⟩
    exact ⟨_, hx, rfl⟩

/-- After the call at `i` and before the one at `j` what leaves a predecessor of `n` changes. -/
def ChangedBetween (g : Graph) (log : List (Call φ)) (n : Vertex) (i j : Nat) : Prop :=
  ∃ k m old new, i < k ∧ k < j ∧ log[k]? = some (.change m old new) ∧ m ∈ g.preds n ∧ old ≠ new

/-- A change stays between two calls when the log goes on. -/
theorem ChangedBetween.append {g : Graph} {log : List (Call φ)} {n : Vertex} {i j j' : Nat}
    (h : ChangedBetween g log n i j) (more : List (Call φ)) (hj : j ≤ j') :
    ChangedBetween g (log ++ more) n i j' := by
  obtain ⟨k, m, old, new, hik, hkj, hk, hm, hne⟩ := h
  have hlt : k < log.length := (List.getElem?_eq_some_iff.1 hk).1
  have hk' : (log ++ more)[k]? = some (.change m old new) := by
    rw [List.getElem?_append_left hlt]
    exact hk
  exact ⟨k, m, old, new, hik, by omega, hk', hm, hne⟩

/-- A call of a log with one more call is one of the log or the last one. -/
theorem getElem?_concat {log : List (Call φ)} {c c' : Call φ} {i : Nat}
    (h : (log ++ [c])[i]? = some c') :
    (i < log.length ∧ log[i]? = some c') ∨ i = log.length ∧ c' = c := by
  have hi : i < log.length + 1 := by
    have hlt := (List.getElem?_eq_some_iff.1 h).1
    rwa [List.length_append, List.length_singleton] at hlt
  rcases Nat.lt_succ_iff_lt_or_eq.1 hi with hlt | rfl
  · rw [List.getElem?_append_left hlt] at h
    exact .inl ⟨hlt, h⟩
  · rw [List.getElem?_concat_length] at h
    exact .inr ⟨rfl, (Option.some.inj h).symm⟩

/-! ## What the queue has to do with the calls -/

/-- What waits, compared with the calls that were made. -/
structure Orderly (g : Graph) (queue : List Vertex) (log : List (Call φ)) : Prop where
  /-- No vertex waits twice. -/
  nodup : queue.Nodup
  /-- The reachable vertices are transferred through before anything else. -/
  begins : g.reachable <+: transfers log ++ queue
  /-- What waits after an evaluation waits because a predecessor has changed since. -/
  caused : ∀ n ∈ queue, ∀ i x, log[i]? = some (.transfer n x) →
    ChangedBetween g log n i log.length
  /-- Between two evaluations of a vertex a predecessor has changed. -/
  again : ∀ n i j x y, i < j → log[i]? = some (.transfer n x) → log[j]? = some (.transfer n y) →
    ChangedBetween g log n i j

theorem Orderly.start {g : Graph} (hg : g.WellFormed) :
    Orderly g (pushAll [] g.reachable) ([] : List (Call φ)) where
  nodup := nodup_pushAll List.nodup_nil _
  begins := by
    rw [pushAll_eq_append hg.nodup_reachable]
    exact List.prefix_rfl
  caused _ _ _ _ h := nomatch h
  again _ _ _ _ _ _ h := nomatch h

/-- Transferring through the first vertex that waits. What it waited for is the cause of the new
evaluation, and the others wait on for what they waited for. -/
theorem Orderly.transfer {g : Graph} {n : Vertex} {rest : List Vertex} {log : List (Call φ)}
    (h : Orderly g (n :: rest) log) (x : φ) : Orderly g rest (log ++ [.transfer n x]) where
  nodup := h.nodup.of_cons
  begins := by
    rw [transfers_append, List.append_assoc]
    exact h.begins
  caused m hm i y hi := by
    rcases getElem?_concat hi with ⟨-, hi⟩ | ⟨-, heq⟩
    · refine (h.caused m (List.mem_cons_of_mem n hm) i y hi).append _ ?_
      rw [List.length_append]
      exact Nat.le_add_right _ _
    · cases heq
      exact absurd hm (List.nodup_cons.1 h.nodup).1
  again m i j y z hij hi hj := by
    have hj' := getElem?_concat hj
    have hi' : log[i]? = some (.transfer m y) := by
      rcases getElem?_concat hi with ⟨-, hi⟩ | ⟨rfl, -⟩
      · exact hi
      · omega
    rcases hj' with ⟨-, hj⟩ | ⟨rfl, heq⟩
    · exact (h.again m i j y z hij hi' hj).append _ le_rfl
    · cases heq
      exact (h.caused n List.mem_cons_self i y hi').append _ le_rfl

/-- A change of a vertex. It is the cause for its successors to wait. -/
theorem Orderly.change {g : Graph} {m : Vertex} {queue : List Vertex} {log : List (Call φ)}
    (h : Orderly g queue log) (hm : ∀ n ∈ g.succs m, m ∈ g.preds n) {old new : φ}
    (hne : old ≠ new) : Orderly g (pushAll queue (g.succs m)) (log ++ [.change m old new]) where
  nodup := nodup_pushAll h.nodup _
  begins := by
    have htransfers : transfers (log ++ [.change m old new]) = transfers log := by
      rw [transfers_append]
      exact List.append_nil _
    rw [htransfers]
    exact h.begins.trans ((List.prefix_append_right_inj _).2 (prefix_pushAll _ _))
  caused n hn i x hi := by
    rcases getElem?_concat hi with ⟨hlt, hi⟩ | ⟨-, heq⟩
    · rw [List.length_append, List.length_singleton]
      rcases mem_pushAll.1 hn with hn | hn
      · exact (h.caused n hn i x hi).append _ (Nat.le_succ _)
      · exact ⟨log.length, m, old, new, hlt, Nat.lt_succ_self _, List.getElem?_concat_length,
          hm n hn, hne⟩
    · cases heq
  again n i j x y hij hi hj := by
    rcases getElem?_concat hi with ⟨-, hi⟩ | ⟨-, heq⟩
    · rcases getElem?_concat hj with ⟨-, hj⟩ | ⟨-, heq⟩
      · exact (h.again n i j x y hij hi hj).append _ le_rfl
      · cases heq
    · cases heq

variable {p : Problem φ σ ε} {f : Vertex → φ → φ} {g : Graph}

/-- In every state that a solver passes through the queue is in order. -/
theorem Visits.orderly (hp : p.Computes f) (heq : ∀ x y, p.lattice.equal x y = true ↔ x = y)
    (hg : g.WellFormed) {client : σ} {s : Progress φ (σ × List (Call φ))}
    (h : Visits p.logged g (client, []) s) : Orderly g s.queue s.client.2 := by
  induction h with
  | refl => exact .start hg
  | tail hrun hstep ih =>
    have hqueue := (Visits.settled hp.logged hg hrun).queue_reachable
    cases hstep with
    | @keep before after k n rest y c c' ht he =>
      dsimp only at ih ⊢
      rw [Problem.log_of_transfer ht]
      exact ih.transfer _
    | @change before after k n rest y c c' ht he =>
      have hn := hg.reachable_subset (hqueue n List.mem_cons_self)
      have hback : ∀ m ∈ g.succs n, n ∈ g.preds m := fun m hm =>
        (hg.mem_succs_iff n hn m (hg.succs_mem n hn m hm)).1 hm
      have hne : after.get n ≠ y := fun hsame =>
        Bool.eq_false_iff.1 he ((heq _ _).2 hsame.symm)
      dsimp only at ih ⊢
      rw [Problem.log_of_change ht]
      exact (ih.transfer _).change hback hne

/-- A step of the run replaces `old` by `new` as the stored value that leaves `m`, and has then made
the calls of `log`. -/
def Stores (p : Problem φ σ ε) (g : Graph) (client : σ) (log : List (Call φ)) (m : Vertex)
    (old new : φ) : Prop :=
  ∃ s s', Visits p.logged g (client, []) s ∧ Step p.logged g s s' ∧ s'.client.2 = log ∧
    s.solution.after.get m = old ∧ s'.solution.after.get m = new

/-- A step logs its transfer, and after it the change if what is stored changes. -/
theorem Step.log {s s' : Progress φ (σ × List (Call φ))} (h : Step p.logged g s s') :
    ∃ n x, s'.client.2 = s.client.2 ++ [.transfer n x] ∨
      ∃ y, s'.client.2 = s.client.2 ++ [.transfer n x] ++ [.change n (s.solution.after.get n) y] ∧
        s'.solution.after = s.solution.after.set n y := by
  cases h with
  | @keep before after k n rest y c c' ht he =>
    exact ⟨n, _, .inl (Problem.log_of_transfer ht)⟩
  | @change before after k n rest y c c' ht he =>
    exact ⟨n, _, .inr ⟨y, Problem.log_of_change ht (after.get n) y, rfl⟩⟩

/-- **A change in the log is a change of what is stored.** -/
theorem Visits.stores {client : σ} {s : Progress φ (σ × List (Call φ))}
    (h : Visits p.logged g (client, []) s) {k : Nat} {m : Vertex} {old new : φ}
    (hk : s.client.2[k]? = some (.change m old new)) :
    Stores p g client (s.client.2.take (k + 1)) m old new := by
  induction h with
  | refl => cases hk
  | @tail s s' hrun hstep ih =>
    -- a change that was logged before this step is one of the run so far
    have hbefore : ∀ more, s'.client.2 = s.client.2 ++ more → k < s.client.2.length →
        Stores p g client (s'.client.2.take (k + 1)) m old new := by
      intro more hlog hlt
      rw [hlog, List.getElem?_append_left hlt] at hk
      rw [hlog, List.take_append_of_le_length hlt]
      exact ih hk
    obtain ⟨n, x, hlog | ⟨y, hlog, hafter⟩⟩ := hstep.log
    · have hk' := hk
      rw [hlog] at hk'
      rcases getElem?_concat hk' with ⟨hlt, -⟩ | ⟨-, heq⟩
      · exact hbefore _ hlog hlt
      · cases heq
    · have hk' := hk
      rw [hlog] at hk'
      rcases getElem?_concat hk' with ⟨-, hold⟩ | ⟨rfl, heq⟩
      · rcases getElem?_concat hold with ⟨hlt, -⟩ | ⟨-, heq⟩
        · exact hbefore _ (by rw [hlog, List.append_assoc]) hlt
        · cases heq
      · cases heq
        refine ⟨s, s', hrun, hstep, ?_, rfl, ?_⟩
        · rw [hlog, List.take_of_length_le (by simp)]
        · rw [hafter, Assignment.get_set, if_pos rfl]

/-! ## Graphs in which no edge leads back -/

/-- If the successors of the first vertex wait behind it, a step only takes that vertex out. -/
theorem Step.queue_eq_tail {s s' : Progress φ σ} (hstep : Step p g s s')
    (hnext : ∀ n rest, s.queue = n :: rest → ∀ m ∈ g.succs n, m ∈ rest) :
    s'.queue = s.queue.tail := by
  cases hstep with
  | keep ht he => rfl
  | change ht he => exact pushAll_eq_self (hnext _ _ rfl)

/-- The successors of a reachable vertex stand behind it, if every edge between reachable vertices
leads forward. -/
theorem mem_of_forward (hg : g.WellFormed)
    (hforward : ∀ m ∈ g.reachable, ∀ n ∈ g.reachable, n ∈ g.succs m →
      g.nodes.idxOf m < g.nodes.idxOf n)
    {n : Vertex} {rest : List Vertex} (hsuffix : n :: rest <:+ g.reachable) :
    ∀ m ∈ g.succs n, m ∈ rest := by
  intro m hm
  have hn : n ∈ g.reachable := hsuffix.subset List.mem_cons_self
  obtain ⟨first, hreachable⟩ := hsuffix
  have hm' := hg.succs_reachable hn hm
  have hlt := hforward n hn m hm' hm
  have horder := hg.pairwise_idxOf.sublist g.reachable_sublist
  rw [← hreachable, List.pairwise_append] at horder
  rw [← hreachable, List.mem_append, List.mem_cons] at hm'
  rcases hm' with hfirst | rfl | hrest
  · exact absurd (horder.2.2 m hfirst n List.mem_cons_self) (Nat.lt_asymm hlt)
  · exact absurd hlt (Nat.lt_irrefl _)
  · exact hrest

/-- In every state that a solver passes through, the vertices that wait are the last reachable ones,
and the others were evaluated once each. -/
theorem Visits.forward (hg : g.WellFormed)
    (hforward : ∀ m ∈ g.reachable, ∀ n ∈ g.reachable, n ∈ g.succs m →
      g.nodes.idxOf m < g.nodes.idxOf n)
    {client : σ} {s : Progress φ σ} (h : Visits p g client s) :
    s.queue <:+ g.reachable ∧ s.solution.evaluations + s.queue.length = g.reachable.length := by
  induction h with
  | refl =>
    have hqueue : (start p g client).queue = g.reachable := pushAll_eq_append hg.nodup_reachable
    rw [hqueue]
    exact ⟨List.suffix_rfl, Nat.zero_add _⟩
  | @tail s s' _ hstep ih =>
    obtain ⟨hsuffix, hcount⟩ := ih
    have htail := hstep.queue_eq_tail fun n rest hq => mem_of_forward hg hforward (hq ▸ hsuffix)
    obtain ⟨n, rest, -, -, hq, -⟩ := hstep.evaluated
    have hevaluations := hstep.evaluations
    rw [hq] at hsuffix hcount htail
    rw [htail, hevaluations]
    refine ⟨(List.suffix_cons n rest).trans hsuffix, ?_⟩
    rw [List.length_cons] at hcount
    rw [List.tail_cons]
    omega

/-- If every edge between reachable vertices leads forward, solving evaluates each of them once. -/
theorem solve_forward (hp : p.Computes f) (hg : g.defect? = none)
    (hforward : ∀ m ∈ g.reachable, ∀ n ∈ g.reachable, n ∈ g.succs m →
      g.nodes.idxOf m < g.nodes.idxOf n) (client : σ) :
    ∃ sol, sol.evaluations = g.reachable.length ∧
      ∀ fuel, g.reachable.length ≤ fuel → (solve p g fuel client).1 = .ok sol := by
  have hwf := Graph.WellFormed.of_defect? hg
  have hne : (solve p g g.reachable.length client).1 ≠ .error .exhausted := by
    -- what waits is what is still to be evaluated, and every step makes it one less
    have hwait : ∀ k s, Visits p g client s ∧ s.queue.length = k → s.queue.length ≤ k :=
      fun k s hs => hs.2.le
    have hless : ∀ k s s', Visits p g client s ∧ s.queue.length = k → Step p g s s' →
        ∃ k' < k, Visits p g client s' ∧ s'.queue.length = k' := by
      rintro k s s' ⟨hs, hk⟩ hstep
      have hs' : Visits p g client s' := hs.tail hstep
      have hcount := (Visits.forward hwf hforward hs).2
      have hcount' := (Visits.forward hwf hforward hs').2
      have hevaluations := hstep.evaluations
      exact ⟨s'.queue.length, by omega, hs', rfl⟩
    have hseed : pushAll [] g.reachable = [] ++ g.reachable :=
      pushAll_eq_append hwf.nodup_reachable
    rw [solve, hg]
    exact iterate_ne_exhausted hwait hless ⟨.refl, congrArg List.length hseed⟩ le_rfl
  obtain ⟨sol, hsol⟩ := solve_ok_of_ne_exhausted hp hg hne
  obtain ⟨-, s, hs, hqueue, rfl, -⟩ := solve_ok (Prod.ext hsol rfl)
  have hcount := (Visits.forward hwf hforward hs).2
  rw [hqueue, List.length_nil, Nat.add_zero] at hcount
  refine ⟨s.solution, hcount, fun fuel hfuel => ?_⟩
  rw [solve_of_le hne hfuel]
  exact hsol

/-- A solution has a run behind it that logs the calls. -/
theorem visits_of_solve_ok {fuel : Nat} {client : σ} {sol : Solution φ}
    (h : (solve p g fuel client).1 = .ok sol) :
    ∃ s, Visits p.logged g (client, []) s ∧ s.queue = [] ∧ s.client.2 = calls p g fuel client := by
  have hlogged : solve p.logged g fuel (client, []) =
      (.ok sol, (solve p.logged g fuel (client, [])).2) := by
    rw [p.logged_extends.solve_eq g fuel (client, [])] at h
    exact Prod.ext h rfl
  obtain ⟨-, s, hs, hqueue, -, hclient⟩ := solve_ok hlogged
  exact ⟨s, hs, hqueue, congrArg Prod.snd hclient⟩

/-- **Evaluations come in order, and each has a cause.** Take a graph without defects, with the
list `R` of the vertices that can be reached in the order of the graph, any operations on flow
values whose comparison decides equality, and a transfer that never fails. Whenever solving ends,
the first transfers are through the vertices of `R` in their order, no transfer is through another
vertex, and between two transfers through the same vertex what leaves a predecessor of it has
changed, which may be the vertex itself; every change is one of what is stored. If every edge
between vertices of `R` leads forward in the list of vertices, solving ends, and with as many
evaluations as there are vertices in `R`. All this is so if the vertices that wait are marked and
the marks looked at in place of the queue, for then the calls and the result are the same. -/
theorem solve_evaluates_in_order (hp : p.Computes f)
    (heq : ∀ x y, p.lattice.equal x y = true ↔ x = y) (hg : g.defect? = none) (client : σ)
    {R : List Vertex} (hsub : R.Sublist g.nodes) (hmem : ∀ n, n ∈ R ↔ g.Reached n) :
    (∀ fuel sol, (solve p g fuel client).1 = .ok sol →
      (transfers (calls p g fuel client)).take R.length = R ∧
      (∀ n ∈ transfers (calls p g fuel client), n ∈ R) ∧
      (∀ n i j x y, i < j → (calls p g fuel client)[i]? = some (.transfer n x) →
        (calls p g fuel client)[j]? = some (.transfer n y) →
        ChangedBetween g (calls p g fuel client) n i j) ∧
      ∀ k m old new, (calls p g fuel client)[k]? = some (.change m old new) →
        Stores p g client ((calls p g fuel client).take (k + 1)) m old new) ∧
    ((∀ m ∈ R, ∀ n ∈ R, n ∈ g.succs m → g.nodes.idxOf m < g.nodes.idxOf n) →
      ∃ sol, sol.evaluations = R.length ∧
        ∀ fuel, R.length ≤ fuel → (solve p g fuel client).1 = .ok sol) ∧
    ∀ fuel, Worklist.solve p.logged g fuel (client, []) =
      ((solve p g fuel client).1, (solve p g fuel client).2, calls p g fuel client) := by
  have hwf := Graph.WellFormed.of_defect? hg
  cases hwf.eq_reachable hsub hmem
  refine ⟨fun fuel sol hsol => ?_, fun hforward => solve_forward hp hg hforward client,
    fun fuel => Worklist.solve_logged p g fuel client⟩
  obtain ⟨s, hs, hqueue, hlog⟩ := visits_of_solve_ok hsol
  have horderly := Visits.orderly hp heq hwf hs
  rw [← hlog]
  refine ⟨?_, fun n hn => ?_, horderly.again, fun k m old new => hs.stores⟩
  · have hbegins := horderly.begins
    rw [hqueue, List.append_nil] at hbegins
    exact (List.prefix_iff_eq_take.1 hbegins).symm
  · obtain ⟨x, hx⟩ := mem_transfers.1 hn
    exact Visits.transfer_reachable hp hwf hs n x hx

end

/-! ## Counting around a loop, and a graph without one -/

namespace Standard

/-- The vertex with a number. -/
def vertexAt (id : Nat) (text : String) : Vertex := some ⟨id, text, 0⟩

/-- Two ways lead from the first vertex to the last one. -/
def diamondGraph : Graph :=
  let top := vertexAt 0 "a"
  let left := vertexAt 1 "b"
  let right := vertexAt 2 "c"
  let bottom := vertexAt 3 "d"
  ((Adjacency.ofEntry top).addEdge top left |>.addEdge top right |>.addEdge left bottom
    |>.addEdge right bottom).toGraph

/-- Around the loop the first vertex is evaluated again because the second has changed, whose stored
value is then another one. On the diamond every vertex is evaluated once, also if the transfer turns
the order of the values around. -/
theorem loop_evaluates_in_order :
    (∃ sol, (solve (upToThree (countUpTo 3)) loopGraph 8 ()).1 = .ok sol ∧
      (transfers (calls (upToThree (countUpTo 3)) loopGraph 8 ())).take 2 =
        [vertexAt 0 "a", vertexAt 1 "b"] ∧
      ChangedBetween loopGraph (calls (upToThree (countUpTo 3)) loopGraph 8 ())
        (vertexAt 0 "a") 0 4 ∧
      Stores (upToThree (countUpTo 3)) loopGraph ()
        ((calls (upToThree (countUpTo 3)) loopGraph 8 ()).take 4) (vertexAt 1 "b") 0 1) ∧
    ∃ sol, sol.evaluations = 4 ∧
      ∀ fuel, 4 ≤ fuel → (solve (upToThree fun _ x => 3 - x) diamondGraph fuel ()).1 = .ok sol := by
  have hloop : loopGraph.defect? = none := by decide
  have hdiamond : diamondGraph.defect? = none := by decide
  have hloopMem : ∀ n, n ∈ [vertexAt 0 "a", vertexAt 1 "b"] ↔ loopGraph.Reached n := by
    have hreachable : loopGraph.reachable = [vertexAt 0 "a", vertexAt 1 "b"] := by decide
    intro n
    rw [← (Graph.WellFormed.of_defect? hloop).mem_reachable_iff, hreachable]
  have hdiamondMem : ∀ n, n ∈ diamondGraph.nodes ↔ diamondGraph.Reached n := by
    have hreachable : diamondGraph.reachable = diamondGraph.nodes := by decide
    intro n
    rw [← (Graph.WellFormed.of_defect? hdiamond).mem_reachable_iff, hreachable]
  obtain ⟨sol, hsol⟩ : ∃ sol, (solve (upToThree (countUpTo 3)) loopGraph 8 ()).1 = .ok sol :=
    ⟨_, rfl⟩
  obtain ⟨hfirst, -, hagain, hstores⟩ := (solve_evaluates_in_order
    (upToThree_computes (countUpTo 3)) (upToThree_models _).equal hloop () (by decide)
    hloopMem).1 8 sol hsol
  obtain ⟨sol', hcount, hends⟩ := (solve_evaluates_in_order (upToThree_computes fun _ x => 3 - x)
    (upToThree_models _).equal hdiamond () (.refl _) hdiamondMem).2.1 (by decide)
  exact ⟨⟨sol, hsol, hfirst, hagain _ 0 4 0 1 (by decide) rfl rfl, hstores 3 _ _ _ rfl⟩, sol',
    hcount, hends⟩

end Standard

end LeakCheck.Dataflow
