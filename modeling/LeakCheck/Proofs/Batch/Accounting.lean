import LeakCheck.Proofs.Batch.Sequential
import LeakCheck.Proofs.Leak.Order
import Mathlib.Algebra.BigOperators.Group.Multiset.Basic
import Mathlib.Algebra.Group.Prod
import Mathlib.Data.Multiset.Filter

/-!
# The accounts of a batch

Tallies are updated from many analyses at once, and the main loop and the workers may find the batch
cancelled at any point. Still nothing is lost or counted twice. One law says so: what is booked
already and what the analyses under way still owe is together what the analyses that were started
bring in (`Setting.Balanced`). It is kept by every step, and when nothing is under way any more it
gives the accounts of the batch (`Setting.completes_accounts`), which do not depend on the schedule
(`Setting.Accounts.perm`). The list of leaks shows the schedule at most in the order of leaks that
look alike (`Setting.Completes.map_key_leaks`).
-/

namespace LeakCheck.Batch

/-! ## Ledgers -/

/-- What analyses bring in: leaks, the number of functions that count as analysed, and failures. -/
abbrev Ledger := Multiset Leak × ℕ × Multiset Failure

namespace Ledger

/-- The ledger with the entries of lists. -/
def of (leaks : List Leak) (analyzed : ℕ) (failures : List Failure) : Ledger :=
  (leaks, analyzed, failures)

theorem of_add_of (leaks leaks' : List Leak) (n n' : ℕ) (failures failures' : List Failure) :
    of leaks n failures + of leaks' n' failures' =
      of (leaks ++ leaks') (n + n') (failures ++ failures') :=
  Prod.ext (Multiset.coe_add _ _) (Prod.ext rfl (Multiset.coe_add _ _))

theorem of_inj {leaks leaks' : List Leak} {n n' : ℕ} {failures failures' : List Failure} :
    of leaks n failures = of leaks' n' failures' ↔
      leaks.Perm leaks' ∧ n = n' ∧ failures.Perm failures' := by
  rw [of, of, Prod.mk.injEq, Prod.mk.injEq, Multiset.coe_eq_coe, Multiset.coe_eq_coe]

end Ledger

/-- What is booked in a tally. -/
def Tally.ledger (tally : Tally) : Ledger :=
  .of tally.collector.received tally.analyzed tally.failures

@[simp] theorem Tally.receive_excluded (tally : Tally) (suppressed : Bool) (leak : Leak) :
    (tally.receive suppressed leak).excluded = tally.excluded := by
  cases suppressed with
  | true => rfl
  | false => rfl

@[simp] theorem Tally.close_excluded (tally : Tally) (text : String) (e : Ending) :
    (tally.close text e).excluded = tally.excluded := by
  rcases e with (_ | _ | _) | _ | _
  all_goals rfl

namespace Setting

/-- The leaks of a function that reach the collector when it is analysed. -/
def delivers (b : Setting) (f : Nat) : List Leak := (b.calls f).filter (!b.suppresses f ·)

/-- What an analysis still brings in. -/
def owes (b : Setting) (task : Task) : Ledger :=
  .of (task.calls.filter (!b.suppresses task.function ·)) task.ending.isAnalyzed.toNat
    (task.ending.failure? (b.text task.function)).toList

theorem owes_task (b : Setting) (f : Nat) :
    b.owes (b.task f) =
      .of (b.delivers f) (b.hasBody f && (b.failure? f).isNone).toNat (b.failure? f).toList := by
  rw [owes, isAnalyzed_task, task_function]
  rfl

/-- What the analyses of functions bring in together. -/
theorem sum_owes (b : Setting) (functions : List Nat) :
    (functions.map fun f => b.owes (b.task f)).sum =
      .of (functions.flatMap b.delivers)
        (functions.countP fun f => b.hasBody f && (b.failure? f).isNone)
        (functions.filterMap b.failure?) := by
  induction functions with
  | nil => rfl
  | cons f rest ih =>
    rw [List.map_cons, List.sum_cons, ih, owes_task, Ledger.of_add_of, List.flatMap_cons,
      List.countP_cons, List.filterMap_cons, Nat.add_comm]
    -- both sides add one to the count if the analysis of `f` succeeds
    cases b.failure? f with
    | none => cases b.hasBody f <;> rfl
    | some e => cases b.hasBody f <;> rfl

/-- What an analysis reports is no longer owed. -/
theorem ledger_receive (b : Setting) (tally : Tally) {task : Task} {leak : Leak}
    {rest : List Leak} (hcalls : task.calls = leak :: rest) :
    (tally.receive (b.suppresses task.function leak) leak).ledger +
        b.owes { task with calls := rest } =
      tally.ledger + b.owes task := by
  unfold owes
  rw [hcalls]
  cases hsup : b.suppresses task.function leak with
  | true =>
    rw [List.filter_cons_of_neg (by simp [hsup])]
    rfl
  | false =>
    rw [List.filter_cons_of_pos (by simp [hsup]), Tally.ledger, Tally.ledger, Ledger.of_add_of,
      Ledger.of_add_of, List.append_cons]
    rfl

/-- What an analysis owes after its last report is booked at its end. -/
theorem ledger_close (b : Setting) (tally : Tally) {task : Task} (hcalls : task.calls = []) :
    (tally.close (b.text task.function) task.ending).ledger = tally.ledger + b.owes task := by
  unfold owes
  rw [hcalls, Tally.ledger, Tally.ledger, Ledger.of_add_of, List.filter_nil, List.append_nil]
  rcases task.ending with (_ | _ | e) | value | reason
  case status.bodiless | status.analyzed =>
    rw [Ending.failure?, Option.toList_none, List.append_nil]
    rfl
  all_goals rfl

/-! ## What every step keeps -/

/-- What is booked and what is still owed is what the analyses that were started bring in. -/
def Balanced (b : Setting) (t : State) : Prop :=
  t.tally.ledger + (t.running.map b.owes).sum = (t.begun.map fun f => b.owes (b.task f)).sum

theorem Balanced.step {b : Setting} {t t' : State} (h : b.Balanced t) (hstep : b.Step t t') :
    b.Balanced t' := by
  unfold Balanced at h ⊢
  cases hstep with
  -- the main loop books nothing, and what a worker drops was not started
  | cancel | check | leave | exclude | submit | drop => exact h
  | start f others hqueued hgo =>
    rw [Multiset.map_cons, Multiset.sum_cons, List.map_append, List.sum_append, ← h,
      List.map_singleton, List.sum_singleton, add_comm (b.owes _), add_assoc]
  -- what a function owes that is refused is booked at once
  | @refuse f reason hcurrent hincluded hrefused =>
    have hclose := b.ledger_close t.tally (congrArg Task.calls (b.task_of_refused hrefused))
    rw [List.map_append, List.sum_append, ← h, List.map_singleton, List.sum_singleton,
      add_right_comm, ← hclose, b.task_of_refused hrefused]
  -- a report or an end moves from what is owed to what is booked
  | report task others hrunning hcalls =>
    rw [← h, hrunning, Multiset.map_cons, Multiset.sum_cons, Multiset.map_cons,
      Multiset.sum_cons, ← add_assoc, ← add_assoc, b.ledger_receive t.tally hcalls]
  | finish task others hrunning hcalls =>
    rw [← h, hrunning, Multiset.map_cons, Multiset.sum_cons, b.ledger_close t.tally hcalls,
      add_assoc]

end Setting

/-- The functions that the main loop has visited, deals with or is going to visit. -/
def State.taken (t : State) : List Nat := t.visited ++ t.current.toList ++ t.pending

theorem State.taken_of_current (t : State) {f : Nat} (hcurrent : t.current = some f) :
    t.taken = t.visited ++ [f] ++ [] ++ t.pending := by
  rw [taken, hcurrent, List.append_nil]
  rfl

/-- The functions that were started or wait for a worker. -/
def State.submitted (t : State) : Multiset Nat := ↑t.begun + t.queued

namespace Setting

/-- How far the main loop and the workers have come. -/
structure Visiting (b : Setting) (t : State) : Prop where
  /-- The main loop takes the functions in their order. -/
  order : t.taken <+: b.functions
  /-- It takes all of them, unless the batch is cancelled. -/
  order_eq : t.cancelled = false → t.taken = b.functions
  /-- The excluded functions are counted. -/
  excluded : t.tally.excluded = t.visited.countP b.excludes
  /-- The others are submitted, each once. -/
  submitted : t.submitted ≤ ↑(t.visited.filter (!b.excludes ·))
  /-- None of them is dropped, unless the batch is cancelled. -/
  submitted_eq : t.cancelled = false → t.submitted = ↑(t.visited.filter (!b.excludes ·))

section
variable {b : Setting} {t t' : State}

/-- A step keeps the invariant if it visits, drops and submits nothing. -/
theorem Visiting.frame (h : b.Visiting t) (hcancelled : t'.cancelled = false → t.cancelled = false)
    (hvisited : t'.visited = t.visited) (htaken : t'.taken = t.taken)
    (hsubmitted : t'.submitted = t.submitted)
    (hexcluded : t'.tally.excluded = t.tally.excluded) : b.Visiting t' where
  order := htaken ▸ h.order
  order_eq hc := htaken.trans (h.order_eq (hcancelled hc))
  excluded := by rw [hexcluded, hvisited, h.excluded]
  submitted := by
    rw [hsubmitted, hvisited]
    exact h.submitted
  submitted_eq hc := by
    rw [hsubmitted, hvisited]
    exact h.submitted_eq (hcancelled hc)

/-- A step keeps the invariant if it takes a function that is not excluded, whether that is then
submitted or refused. -/
theorem Visiting.hand_over (h : b.Visiting t) {f : Nat} (hcurrent : t.current = some f)
    (hincluded : b.excludes f = false) (hvisited : t'.visited = t.visited ++ [f])
    (hfree : t'.current = none) (hpending : t'.pending = t.pending)
    (hcancelled : t'.cancelled = t.cancelled) (hsubmitted : t'.submitted = f ::ₘ t.submitted)
    (hexcluded : t'.tally.excluded = t.tally.excluded) : b.Visiting t' := by
  have htaken : t'.taken = t.taken := by
    rw [t.taken_of_current hcurrent, State.taken, hvisited, hfree, hpending]
    rfl
  have hfilter : (↑(t'.visited.filter (!b.excludes ·)) : Multiset Nat) =
      f ::ₘ ↑(t.visited.filter (!b.excludes ·)) := by
    rw [hvisited, List.filter_append, List.filter_cons_of_pos (by simp [hincluded]),
      List.filter_nil, ← Multiset.coe_add, add_comm]
    rfl
  exact {
    order := htaken ▸ h.order
    order_eq := fun hc => htaken.trans (h.order_eq (hcancelled.symm.trans hc))
    excluded := by
      rw [hexcluded, hvisited]
      simp [h.excluded, hincluded]
    submitted := by
      rw [hsubmitted, hfilter]
      exact Multiset.cons_le_cons f h.submitted
    submitted_eq := fun hc => by
      rw [hsubmitted, hfilter, h.submitted_eq (hcancelled.symm.trans hc)] }

theorem Visiting.step (h : b.Visiting t) (hstep : b.Step t t') : b.Visiting t' := by
  cases hstep with
  | cancel => exact h.frame (fun hc => nomatch hc) rfl rfl rfl rfl
  | @check f rest hpending hfree hgo =>
    refine h.frame id rfl ?_ rfl rfl
    simp only [State.taken, hpending, hfree]
    simp
  | leave hfree hstop =>
    have hshorter : t.visited ++ t.current.toList ++ [] <+: t.taken :=
      (List.prefix_append_right_inj _).2 List.nil_prefix
    exact { h with
      order := hshorter.trans h.order
      order_eq := fun hc => (nomatch hstop.symm.trans hc) }
  | @exclude f hcurrent hexcluded =>
    have htaken := t.taken_of_current hcurrent
    have horder : t.visited ++ [f] ++ [] ++ t.pending <+: b.functions := htaken ▸ h.order
    have hfilter : (t.visited ++ [f]).filter (!b.excludes ·) =
        t.visited.filter (!b.excludes ·) := by
      simp [hexcluded]
    exact {
      order := horder
      order_eq := fun hc => htaken.symm.trans (h.order_eq hc)
      excluded := by simp [h.excluded, hexcluded]
      submitted := hfilter ▸ h.submitted
      submitted_eq := fun hc => hfilter ▸ h.submitted_eq hc }
  | @submit f hcurrent hincluded haccepted =>
    exact h.hand_over hcurrent hincluded rfl rfl rfl rfl (Multiset.add_cons ..) rfl
  | @refuse f reason hcurrent hincluded hrefused =>
    refine h.hand_over hcurrent hincluded rfl rfl rfl rfl ?_ (Tally.close_excluded ..)
    show ↑(t.begun ++ [f]) + t.queued = f ::ₘ (↑t.begun + t.queued)
    rw [← Multiset.coe_add, add_right_comm, add_comm]
    rfl
  | start f others hqueued hgo =>
    refine h.frame id rfl rfl ?_ rfl
    simp only [State.submitted, hqueued, ← Multiset.coe_add, add_assoc]
    rfl
  | drop f others hqueued hstop =>
    have hfewer : others ≤ t.queued := hqueued ▸ Multiset.le_cons_self others f
    exact { h with
      submitted := (Multiset.add_le_add_left hfewer).trans h.submitted
      submitted_eq := fun hc => (nomatch hstop.symm.trans hc) }
  | report => exact h.frame id rfl rfl rfl (Tally.receive_excluded ..)
  | finish => exact h.frame id rfl rfl rfl (Tally.close_excluded ..)

end

/-- Whatever the schedule, the books are balanced and the functions are taken in their order. -/
theorem invariants {b : Setting} {t : State} (h : Relation.ReflTransGen b.Step b.opening t) :
    b.Balanced t ∧ b.Visiting t := by
  induction h with
  | refl => exact ⟨rfl, ⟨List.prefix_rfl, fun _ => rfl, rfl, le_rfl, fun _ => rfl⟩⟩
  | tail _ hstep ih => exact ⟨ih.1.step hstep, ih.2.step hstep⟩

/-! ## Accounts -/

/-- What a result says if the main loop has visited some functions and the analyses of some
functions were started. -/
structure Accounts (b : Setting) (visited begun : List Nat) (cancelled : Bool) (r : Result) :
    Prop where
  /-- The functions that the configuration excludes are counted. -/
  excluded : r.excluded = visited.countP b.excludes
  /-- The functions that have a body and did not fail are counted. -/
  analyzed : r.analyzed = begun.countP fun f => b.hasBody f && (b.failure? f).isNone
  /-- There is one failure for each function that failed, panicked or was refused, and the
  cancellation comes last. -/
  failures : ∃ failures, failures.Perm (begun.filterMap b.failure?) ∧
    r.failures = failures ++ if cancelled then [.cancelled] else []
  /-- No leak is listed twice. -/
  nodup : r.leaks.Nodup
  /-- The leaks that were reported and are not suppressed are listed, and no others. -/
  mem_leaks : ∀ leak, leak ∈ r.leaks ↔
    ∃ f ∈ begun, leak ∈ b.calls f ∧ b.suppresses f leak = false

theorem Accounts.of_perm {b : Setting} {visited begun begun' : List Nat} {cancelled : Bool}
    {r : Result} (h : b.Accounts visited begun cancelled r) (hperm : begun.Perm begun') :
    b.Accounts visited begun' cancelled r := by
  obtain ⟨failures, hfailures, heq⟩ := h.failures
  refine ⟨h.excluded, h.analyzed.trans (hperm.countP_eq _),
    ⟨failures, hfailures.trans (hperm.filterMap _), heq⟩, h.nodup, ?_⟩
  intro leak
  rw [h.mem_leaks]
  simp only [hperm.mem_iff]

section
variable {b : Setting} {t : State}

/-- What a run has booked is what the analyses that were started bring in. -/
theorem Completes.booked (h : b.Completes t) :
    t.tally.collector.received.Perm (t.begun.flatMap b.delivers) ∧
      t.tally.analyzed = t.begun.countP (fun f => b.hasBody f && (b.failure? f).isNone) ∧
      t.tally.failures.Perm (t.begun.filterMap b.failure?) := by
  have hbalanced := (invariants h.steps).1
  -- nothing is under way, so nothing is owed any more
  have hledger : t.tally.ledger = (t.begun.map fun f => b.owes (b.task f)).sum := by
    rw [← hbalanced, h.done.running, Multiset.map_zero, Multiset.sum_zero, add_zero]
  rwa [sum_owes, Tally.ledger, Ledger.of_inj] at hledger

/-- A run accounts for the functions that were visited and begun in it. -/
theorem Completes.accounts (h : b.Completes t) :
    b.Accounts t.visited t.begun t.cancelled t.result := by
  obtain ⟨hreceived, hanalyzed, hfailures⟩ := h.booked
  refine ⟨(invariants h.steps).2.excluded, hanalyzed, ⟨_, hfailures, rfl⟩,
    Collector.nodup_leaks _, ?_⟩
  intro leak
  show leak ∈ t.tally.collector.leaks ↔ _
  rw [Collector.mem_leaks, hreceived.mem_iff, List.mem_flatMap]
  simp [delivers]

theorem Completes.taken_eq (h : b.Completes t) : t.taken = t.visited := by
  rw [State.taken, h.done.current, h.done.pending, List.append_nil]
  exact List.append_nil _

theorem Completes.submitted_eq (h : b.Completes t) : t.submitted = ↑t.begun := by
  rw [State.submitted, h.done.queued, add_zero]

theorem Completes.visited_order (h : b.Completes t) : t.visited <+: b.functions :=
  h.taken_eq ▸ (invariants h.steps).2.order

theorem Completes.begun_subperm (h : b.Completes t) :
    t.begun.Subperm (t.visited.filter (!b.excludes ·)) :=
  Multiset.coe_le.1 (h.submitted_eq ▸ (invariants h.steps).2.submitted)

/-- A run that is not cancelled visits all functions. -/
theorem Completes.visited_eq (h : b.Completes t) (hcancelled : t.cancelled = false) :
    t.visited = b.functions :=
  h.taken_eq.symm.trans ((invariants h.steps).2.order_eq hcancelled)

/-- A run that is not cancelled begins the analyses of all functions that are not excluded, or has
them refused. -/
theorem Completes.begun_perm (h : b.Completes t) (hcancelled : t.cancelled = false) :
    t.begun.Perm (b.functions.filter (!b.excludes ·)) := by
  have hbegun := h.submitted_eq.symm.trans ((invariants h.steps).2.submitted_eq hcancelled)
  rwa [h.visited_eq hcancelled, Multiset.coe_eq_coe] at hbegun

/-- A run that is not cancelled accounts for all functions. -/
theorem Completes.accounts_all (h : b.Completes t) (hcancelled : t.cancelled = false) :
    b.Accounts b.functions (b.functions.filter (!b.excludes ·)) false t.result := by
  have haccounts := h.accounts.of_perm (h.begun_perm hcancelled)
  rwa [h.visited_eq hcancelled, hcancelled] at haccounts

/-- **Every schedule accounts for every function.** In a run that is not cancelled all functions are
visited, and the analyses of all that are not excluded are begun, or refused: the excluded ones are
counted, so are those with a body whose analysis does not fail, there is one failure for each one
that fails, panics or is refused, and the leaks are those that were reported, up to a failure, at
sites that are not suppressed. In a run that is cancelled the same holds of the functions up to the
one where the main loop stopped and of those that were started or refused, each of them once and
none excluded, and the cancellation is the last failure. -/
theorem completes_accounts (h : b.Completes t) :
    (t.cancelled = false →
      b.Accounts b.functions (b.functions.filter (!b.excludes ·)) false t.result) ∧
    (t.cancelled = true →
      t.visited <+: b.functions ∧ t.begun.Subperm (t.visited.filter (!b.excludes ·)) ∧
        b.Accounts t.visited t.begun true t.result) := by
  refine ⟨h.accounts_all, fun hcancelled => ?_⟩
  have haccounts := h.accounts
  rw [hcancelled] at haccounts
  exact ⟨h.visited_order, h.begun_subperm, haccounts⟩

end

/-- Results with the same accounts are the same but for the order of failures and of leaks. -/
theorem Accounts.perm {b : Setting} {visited begun : List Nat} {cancelled : Bool} {r r' : Result}
    (h : b.Accounts visited begun cancelled r) (h' : b.Accounts visited begun cancelled r') :
    r.excluded = r'.excluded ∧ r.analyzed = r'.analyzed ∧ r.failures.Perm r'.failures ∧
      r.leaks.Perm r'.leaks := by
  obtain ⟨failures, hperm, hfailures⟩ := h.failures
  obtain ⟨failures', hperm', hfailures'⟩ := h'.failures
  refine ⟨h.excluded.trans h'.excluded.symm, h.analyzed.trans h'.analyzed.symm, ?_, ?_⟩
  · rw [hfailures, hfailures']
    exact (hperm.trans hperm'.symm).append_right _
  · rw [List.perm_ext_iff_of_nodup h.nodup h'.nodup]
    exact fun leak => (h.mem_leaks leak).trans (h'.mem_leaks leak).symm

/-- Two runs that are not cancelled list leaks with the same positions and texts at the same
places. -/
theorem Completes.map_key_leaks {b : Setting} {t t' : State} (h : b.Completes t)
    (h' : b.Completes t') (hcancelled : t.cancelled = false) (hcancelled' : t'.cancelled = false) :
    t.result.leaks.map Leak.key = t'.result.leaks.map Leak.key := by
  have hbegun : t.begun.Perm t'.begun :=
    (h.begun_perm hcancelled).trans (h'.begun_perm hcancelled').symm
  have hreceived : t.tally.collector.received.Perm t'.tally.collector.received :=
    (h.booked.1.trans (hbegun.flatMap_right b.delivers)).trans h'.booked.1.symm
  exact Leak.map_key_sort (Leak.eraseDups_perm hreceived)

end Setting

/-- **The schedule does not show.** A run that is not cancelled, and in which nothing breaks down,
comes to what `Loaded.analyze` gives. -/
theorem Loaded.analyze_perm {l : Loaded} {conf : Config} {t : State}
    (h : Setting.Completes { loaded := l, conf } t) (hcancelled : t.cancelled = false)
    {o : Options} (ho : o.cancelled = false) (logger : Log.Logger) (s : Log.Sinks) :
    let r := (l.analyze conf o logger s).1
    t.result.excluded = r.excluded ∧ t.result.analyzed = r.analyzed ∧
      t.result.failures.Perm r.failures ∧ t.result.leaks.Perm r.leaks := by
  obtain ⟨t', h', hcancelled', hresult⟩ := l.analyze_completes conf o logger s
  intro r
  rw [show r = t'.result from hresult]
  exact (h.accounts_all hcancelled).perm (h'.accounts_all (hcancelled'.trans ho))

/-! ## A batch in which something breaks down -/

namespace Sample

open Relation (ReflTransGen)
open Ssa (Block Function Instr)

/-- A function that passes a secret on and then gives it back. -/
def leaking (text name : String) : Function where
  text := text
  name := name
  path := some "p"
  blocks := [{ instrs := [
    { form := "Call", text := "getSecret()", pos := 1, result := some 0,
      operation := .call ⟨1, false, [], 1, .known "getSecret" none⟩ },
    { form := "Call", text := "invoke w.Put(t0)", pos := 2, result := some 3,
      operation := .call ⟨0, false, [0], 2, .method "Put"⟩ },
    { form := "Return", text := "return t0", pos := 3, operation := .giveBack [0] }] }]
  values := #[{ name := "t0" }, { name := "getSecret" }, { name := "w" }, { name := "t1" }]

/-- Four functions that leak a secret twice, and one without a body. -/
def program : Ssa.Program where
  functions := #[leaking "p.A" "A", leaking "p.B" "B", leaking "p.C" "C",
    { text := "p.D", name := "D", path := some "p" }, leaking "p.E" "E"]

/-- The function `B` is excluded, the analysis of `C` panics after its first report, and `E` is
refused. -/
def mixed : Setting where
  loaded := { program, packages := [{ path := "p", source := {} }], functions := [0, 1, 2, 3, 4] }
  conf := { secret := "getSecret", exclude := [{ name := .exactly "B" }] }
  breakdown? f :=
    if f = 2 then some (.panicked 1 "index out of range")
    else if f = 4 then some (.refused "pool closed")
    else none

/-- The first leak of a function of `program`. -/
def leakOf (f : Nat) : Leak where
  proc := program.procedure f
  origin := some ⟨0, "t0 = getSecret()", 1⟩
  site := some ⟨1, "t1 = invoke w.Put(t0)", 2⟩

/-- The second leak of a function of `program`. -/
def lastLeakOf (f : Nat) : Leak :=
  { leakOf f with site := some ⟨2, "return t0", 3⟩ }

theorem mixed_functions : mixed.functions = [0, 1, 2, 3, 4] := by
  have hsource : mixed.loaded.functions.filter mixed.loaded.isSource = [0, 1, 2, 3, 4] := by
    decide +kernel
  rw [Setting.functions, Loaded.sourceFunctions, hsource]
  exact Text.sortByText_eq_self (by decide +kernel)

theorem mixed_opening : mixed.opening = { pending := [0, 1, 2, 3, 4] } :=
  congrArg (fun functions => ({ pending := functions } : State)) mixed_functions

theorem mixed_calls : mixed.calls 0 = [leakOf 0, lastLeakOf 0] ∧ mixed.calls 2 = [leakOf 2] ∧
    mixed.calls 3 = [] := by
  decide +kernel

/-- The main loop takes the first three functions. -/
theorem mixed_begins : ReflTransGen mixed.Step mixed.opening
    { pending := [3, 4], queued := {2, 0}, tally := { excluded := 1 }, visited := [0, 1, 2] } := by
  rw [mixed_opening]
  have hcheck : mixed.Step { pending := [0, 1, 2, 3, 4] } _ := .check rfl rfl rfl
  have hfirst := (ReflTransGen.single hcheck).tail (.submit rfl (by decide +kernel) nofun)
  have hsecond := (hfirst.tail (.check rfl rfl rfl)).tail (.exclude rfl (by decide +kernel))
  exact (hsecond.tail (.check rfl rfl rfl)).tail (.submit rfl (by decide +kernel) nofun)

/-- The third function is started before the first and panics while this one is between its two
reports; the others come to nothing. -/
theorem mixed_interleaved : ∃ t, mixed.Completes t ∧ t.cancelled = false ∧
    t.begun = [2, 0, 3, 4] ∧
    t.tally.collector.received = [leakOf 0, leakOf 2, lastLeakOf 0] := by
  obtain ⟨hcalls₀, hcalls₂, hcalls₃⟩ := mixed_calls
  have hstart₂ := mixed_begins.tail (.start 2 {0} rfl rfl)
  have hstart₀ := hstart₂.tail (.start 0 0 rfl rfl)
  have hreport₀ := hstart₀.tail (.report (mixed.task 0) {mixed.task 2} rfl hcalls₀)
  have hreport₂ := hreport₀.tail
    (.report (mixed.task 2) {{ mixed.task 0 with calls := [lastLeakOf 0] }}
      (Multiset.cons_swap _ (mixed.task 2) 0) hcalls₂)
  have hpanic₂ := hreport₂.tail
    (.finish { mixed.task 2 with calls := [] } {{ mixed.task 0 with calls := [lastLeakOf 0] }}
      rfl rfl)
  have hsubmit₃ := (hpanic₂.tail (.check rfl rfl rfl)).tail
    (.submit rfl (by decide +kernel) nofun)
  have hreport₀' := hsubmit₃.tail
    (.report { mixed.task 0 with calls := [lastLeakOf 0] } 0 rfl rfl)
  have hfinish₀ := hreport₀'.tail (.finish { mixed.task 0 with calls := [] } 0 rfl rfl)
  have hstart₃ := hfinish₀.tail (.start 3 0 rfl rfl)
  have hfinish₃ := hstart₃.tail (.finish (mixed.task 3) 0 rfl hcalls₃)
  have hrefuse₄ := (hfinish₃.tail (.check rfl rfl rfl)).tail
    (.refuse rfl (by decide +kernel) rfl)
  exact ⟨_, ⟨hrefuse₄, ⟨rfl, rfl, rfl, rfl⟩⟩, rfl, rfl, by decide +kernel⟩

/-- The batch is cancelled after the first report of the first function, before the third one is
started. -/
theorem mixed_interrupted : ∃ t, mixed.Completes t ∧ t.cancelled = true ∧ t.visited = [0, 1, 2] ∧
    t.begun = [0] := by
  obtain ⟨hcalls₀, -, -⟩ := mixed_calls
  have hstart₀ := mixed_begins.tail (.start 0 {2} (Multiset.cons_swap 2 0 0) rfl)
  have hreport₀ := hstart₀.tail (.report (mixed.task 0) 0 rfl hcalls₀)
  have hcancel := hreport₀.tail (.cancel _)
  have hleave := (hcancel.tail (.leave rfl rfl)).tail (.drop 2 0 rfl rfl)
  have hreport₀' := hleave.tail
    (.report { mixed.task 0 with calls := [lastLeakOf 0] } 0 rfl rfl)
  have hfinish₀ := hreport₀'.tail (.finish { mixed.task 0 with calls := [] } 0 rfl rfl)
  exact ⟨_, ⟨hfinish₀, ⟨rfl, rfl, rfl, rfl⟩⟩, rfl, rfl, rfl⟩

/-- In a run of `mixed` that is not cancelled one function is excluded, one counts as analysed, and
there is a failure for the one that panics and for the one that is refused. The leak that was
reported before the panic is listed, and none of the functions that are excluded or refused. In the
run that is cancelled the function under analysis is followed to its end, and the cancellation is
the only failure. -/
theorem mixed_accounts :
    (∃ t, mixed.Completes t ∧ t.cancelled = false ∧ t.begun = [2, 0, 3, 4] ∧
      t.result.excluded = 1 ∧ t.result.analyzed = 1 ∧
      t.result.failures.Perm
        [.panicked "p.C" "index out of range", .refused "p.E" "pool closed"] ∧
      ∀ leak, leak ∈ t.result.leaks ↔ leak ∈ [leakOf 0, lastLeakOf 0, leakOf 2]) ∧
    ∃ t, mixed.Completes t ∧ t.cancelled = true ∧ t.begun = [0] ∧
      t.result.excluded = 1 ∧ t.result.analyzed = 1 ∧ t.result.failures = [.cancelled] ∧
      ∀ leak, leak ∈ t.result.leaks ↔ leak ∈ [leakOf 0, lastLeakOf 0] := by
  obtain ⟨hcalls₀, hcalls₂, hcalls₃⟩ := mixed_calls
  have hnone : mixed.failure? 0 = none ∧ mixed.failure? 3 = none := by
    simp only [← Option.isNone_iff_eq_none]
    decide +kernel
  have hcalls₄ : mixed.calls 4 = [] := rfl
  have hkept : mixed.suppresses 0 (leakOf 0) = false ∧ mixed.suppresses 0 (lastLeakOf 0) = false ∧
      mixed.suppresses 2 (leakOf 2) = false := by
    decide +kernel
  constructor
  · obtain ⟨t, hrun, hcancelled, hbegun, -⟩ := mixed_interleaved
    have haccounts := (Setting.completes_accounts hrun).1 hcancelled
    have hincluded : [0, 1, 2, 3, 4].filter (!mixed.excludes ·) = [0, 2, 3, 4] := by
      decide +kernel
    rw [mixed_functions, hincluded] at haccounts
    refine ⟨t, hrun, hcancelled, hbegun, haccounts.excluded.trans (by decide +kernel),
      haccounts.analyzed.trans (by decide +kernel), ?_, ?_⟩
    · obtain ⟨failures, hperm, heq⟩ := haccounts.failures
      have hfailures : [0, 2, 3, 4].filterMap mixed.failure? =
          [.panicked "p.C" "index out of range", .refused "p.E" "pool closed"] := by
        simp only [List.filterMap_cons, List.filterMap_nil, hnone]
        rfl
      rw [heq, if_neg Bool.false_ne_true, List.append_nil, ← hfailures]
      exact hperm
    · intro leak
      rw [haccounts.mem_leaks]
      simp only [List.mem_cons, List.not_mem_nil, or_false, exists_eq_or_imp, exists_eq_left,
        hcalls₀, hcalls₂, hcalls₃, hcalls₄]
      grind
  · obtain ⟨t, hrun, hcancelled, hvisited, hbegun⟩ := mixed_interrupted
    obtain ⟨-, -, haccounts⟩ := (Setting.completes_accounts hrun).2 hcancelled
    rw [hvisited, hbegun] at haccounts
    refine ⟨t, hrun, hcancelled, hbegun, haccounts.excluded.trans (by decide +kernel),
      haccounts.analyzed.trans (by decide +kernel), ?_, ?_⟩
    · obtain ⟨failures, hperm, heq⟩ := haccounts.failures
      have hnil : [0].filterMap mixed.failure? = [] := by
        simp only [List.filterMap_cons, List.filterMap_nil, hnone]
      rw [hnil, List.perm_nil] at hperm
      rw [heq, hperm]
      rfl
    · intro leak
      rw [haccounts.mem_leaks]
      simp only [List.mem_cons, List.not_mem_nil, or_false, exists_eq_left, hcalls₀]
      grind

end Sample

end LeakCheck.Batch
