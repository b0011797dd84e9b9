import LeakCheck.Leak.Basic
import LeakCheck.Proofs.List.Distinct
import Mathlib.Data.List.Nodup
import Mathlib.Logic.Function.Basic
import Mathlib.Logic.Relation

/-!
# Each leak is forwarded once

The reports that reach a `Dedup` may overlap. A call looks at the leaks seen and marks its own under
a lock, which it gives back before it forwards the leak, so other calls come between the two.
`Dedup.Step` has one constructor for each thing that a call does at once. The reporter beneath has a
state of its own, on which its answers depend, so it may fail at any time. A call *holds* its leak
from the moment it marks it, and what is seen is what is held, each leak by one call
(`Dedup.Consistent`). So no leak is forwarded twice at any time, and none is lost once all calls
have returned (`Dedup.forwards_each_once`), also if the reporter beneath fails: the mark stays. To
the reporter beneath the run is one of calls with the leaks forwarded, one after the other
(`Dedup.Runs.answered`), and what it answers is what the calls return.

Calls that do not overlap are those of `Dedup.report`. Made one after the other they are one of the
runs (`Dedup.reportEach_runs`), and what each of them returns is known: nothing if its leak was
reported before, and else what the reporter beneath answers after the first reports so far
(`Dedup.getElem?_reportEach`).
-/

namespace LeakCheck.Dedup

/-! ## Calls of a reporter -/

section
variable {τ ε : Type} (report : Leak → τ → Option ε × τ)

/-- Calls a reporter with leaks, one after the other. Gives what the calls return. -/
def callEach : List Leak → τ → List (Option ε) × τ
  | [], s => ([], s)
  | l :: rest, s =>
    let (e, s) := report l s
    let (es, s) := callEach rest s
    (e :: es, s)

theorem callEach_cons (l : Leak) (rest : List Leak) (s : τ) :
    callEach report (l :: rest) s =
      ((report l s).1 :: (callEach report rest (report l s).2).1,
        (callEach report rest (report l s).2).2) := rfl

theorem callEach_concat (leaks : List Leak) (l : Leak) (s : τ) :
    callEach report (leaks ++ [l]) s =
      ((callEach report leaks s).1 ++ [(report l (callEach report leaks s).2).1],
        (report l (callEach report leaks s).2).2) := by
  induction leaks generalizing s with
  | nil => rfl
  | cons k rest ih => rw [List.cons_append, callEach_cons, callEach_cons, ih, List.cons_append]

/-- What a call returns depends on the calls before it. -/
theorem getElem?_callEach (leaks : List Leak) (s : τ) (k : Nat) :
    (callEach report leaks s).1[k]? =
      leaks[k]?.map fun l => (report l (callEach report (leaks.take k) s).2).1 := by
  induction leaks generalizing s k with
  | nil => rfl
  | cons l rest ih =>
    cases k with
    | zero => rfl
    | succ k =>
      rw [callEach_cons, List.getElem?_cons_succ, List.getElem?_cons_succ, ih]
      rfl

end

/-! ## Calls that overlap -/

/-- How far a call has come. -/
inductive Phase (ε : Type) where
  /-- It has not looked at the leaks seen. -/
  | called
  /-- It has marked its leak and has to forward it. -/
  | forwarding
  /-- It has returned this. -/
  | returned (e : Option ε)

/-- A leak that reached the reporter beneath. -/
structure Delivery (ι ε : Type) where
  /-- The call that forwarded it. -/
  call : ι
  /-- The leak. -/
  leak : Leak
  /-- What the reporter answered. -/
  answer : Option ε

/-- Calls under way, which are told apart by `ι`, over a reporter with states `σ`. -/
structure State (ι ε σ : Type) where
  /-- The leaks seen. -/
  dedup : Dedup := {}
  /-- How far each call has come. -/
  phase : ι → Phase ε := fun _ => .called
  /-- The leaks that were forwarded, in their order. -/
  deliveries : List (Delivery ι ε) := []
  /-- The state of the reporter beneath. -/
  sink : σ

variable {ι ε σ : Type}

namespace State

/-- The leaks that were forwarded, in their order. -/
def forwarded (t : State ι ε σ) : List Leak := t.deliveries.map Delivery.leak

/-- All calls have returned. -/
def Done (t : State ι ε σ) : Prop := ∀ i, ∃ e, t.phase i = .returned e

/-- A call has marked its leak: it has to forward it, or has done so. -/
def Holds (t : State ι ε σ) (i : ι) : Prop :=
  t.phase i = .forwarding ∨ ∃ d ∈ t.deliveries, d.call = i

/-- A leak reaches the reporter beneath, which comes to the state `s`. -/
def deliver (t : State ι ε σ) (d : Delivery ι ε) (s : σ) : State ι ε σ :=
  { t with deliveries := t.deliveries ++ [d], sink := s }

section
variable (t : State ι ε σ) (i : ι) (new : Delivery ι ε) (s : σ)

@[simp] theorem dedup_deliver : (t.deliver new s).dedup = t.dedup := rfl

@[simp] theorem phase_deliver : (t.deliver new s).phase i = t.phase i := rfl

@[simp] theorem deliveries_deliver : (t.deliver new s).deliveries = t.deliveries ++ [new] := rfl

@[simp] theorem forwarded_deliver : (t.deliver new s).forwarded = t.forwarded ++ [new.leak] := by
  simp [forwarded]

end

end State

variable {leak : ι → Leak}

/-! ## What belongs together -/

/-- The marks, the calls and the deliveries belong together. -/
structure Consistent (leak : ι → Leak) (t : State ι ε σ) : Prop where
  /-- A call that forwarded has forwarded its own leak and returned the answer. -/
  delivered : ∀ d ∈ t.deliveries, d.leak = leak d.call ∧ t.phase d.call = .returned d.answer
  /-- A call that returned and did not forward has returned nothing, and its leak was seen. -/
  dropped : ∀ i e, t.phase i = .returned e → (∀ d ∈ t.deliveries, d.call ≠ i) →
    e = none ∧ leak i ∈ t.dedup.seen
  /-- No two calls hold one leak. -/
  unique : ∀ i j, t.Holds i → t.Holds j → leak i = leak j → i = j
  /-- What is seen is what is held. -/
  seen : ∀ l, l ∈ t.dedup.seen ↔ ∃ i, t.Holds i ∧ leak i = l
  /-- No call forwards twice. -/
  calls : (t.deliveries.map Delivery.call).Nodup

theorem Consistent.opening (s : σ) : Consistent leak ({ sink := s } : State ι ε σ) := by
  have hnone : ∀ i, ¬ ({ sink := s } : State ι ε σ).Holds i := by
    rintro i (h | ⟨d, hd, -⟩)
    · cases h
    · cases hd
  refine ⟨?_, ?_, ?_, ?_, List.nodup_nil⟩
  · intro d hd
    cases hd
  · intro i e h
    cases h
  · intro i j hi
    exact absurd hi (hnone i)
  · intro l
    refine ⟨nofun, ?_⟩
    rintro ⟨i, hi, -⟩
    exact absurd hi (hnone i)

/-- A call that has not returned has not forwarded. -/
theorem Consistent.ne_of_mem {t : State ι ε σ} (h : Consistent leak t) {i : ι}
    (hi : ∀ e, t.phase i ≠ .returned e) : ∀ d ∈ t.deliveries, d.call ≠ i := by
  rintro d hd rfl
  exact hi d.answer (h.delivered d hd).2

/-- No leak was forwarded twice, for no call forwards twice and no two calls hold one leak. -/
theorem Consistent.nodup_forwarded {t : State ι ε σ} (h : Consistent leak t) :
    t.forwarded.Nodup := by
  have hforwarded : t.forwarded = (t.deliveries.map Delivery.call).map leak := by
    rw [State.forwarded, List.map_map]
    exact List.map_congr_left fun d hd => (h.delivered d hd).1
  have hholds : ∀ i ∈ t.deliveries.map Delivery.call, t.Holds i := by
    intro i hi
    obtain ⟨d, hd, rfl⟩ := List.mem_map.1 hi
    exact .inr ⟨d, hd, rfl⟩
  rw [hforwarded]
  exact List.Nodup.map_on (fun i hi j hj => h.unique i j (hholds i hi) (hholds j hj)) h.calls

/-- When all calls have returned, what was reported has been forwarded: a call that did not forward
its leak has seen the mark of one that did. -/
theorem Consistent.mem_forwarded {t : State ι ε σ} (h : Consistent leak t) (hdone : t.Done)
    {l : Leak} : l ∈ t.forwarded ↔ ∃ i, leak i = l := by
  constructor
  · intro hl
    obtain ⟨d, hd, rfl⟩ := List.mem_map.1 hl
    exact ⟨d.call, (h.delivered d hd).1.symm⟩
  · rintro ⟨i, rfl⟩
    have hseen : leak i ∈ t.dedup.seen := by
      by_cases hi : ∃ d ∈ t.deliveries, d.call = i
      · exact (h.seen _).2 ⟨i, .inr hi, rfl⟩
      · obtain ⟨e, he⟩ := hdone i
        exact (h.dropped i e he fun d hd hcall => hi ⟨d, hd, hcall⟩).2
    obtain ⟨j, hholds, hj⟩ := (h.seen _).1 hseen
    rcases hholds with hphase | ⟨d, hd, rfl⟩
    · obtain ⟨e, he⟩ := hdone j
      rw [he] at hphase
      cases hphase
    · exact List.mem_map.2 ⟨d, hd, (h.delivered d hd).1.trans hj⟩

/-! ## Steps -/

variable [DecidableEq ι]

namespace State

/-- A call comes to a phase, and the leaks seen are `d`. -/
def advance (t : State ι ε σ) (d : Dedup) (i : ι) (p : Phase ε) : State ι ε σ :=
  { t with dedup := d, phase := Function.update t.phase i p }

section
variable (t : State ι ε σ) (d : Dedup) (i j : ι) (p : Phase ε)

@[simp] theorem dedup_advance : (t.advance d i p).dedup = d := rfl

@[simp] theorem deliveries_advance : (t.advance d i p).deliveries = t.deliveries := rfl

@[simp] theorem forwarded_advance : (t.advance d i p).forwarded = t.forwarded := rfl

@[simp] theorem sink_advance : (t.advance d i p).sink = t.sink := rfl

@[simp] theorem phase_advance :
    (t.advance d i p).phase j = if j = i then p else t.phase j := Function.update_apply ..

end

end State

variable (forward : Leak → σ → Option ε × σ) in
/-- What a call does at once. The call `i` is made with the leak `leak i`, and the reporter beneath
is `forward`. -/
inductive Step (leak : ι → Leak) : State ι ε σ → State ι ε σ → Prop
  /-- A call finds that its leak was seen, and returns. -/
  | drop {t : State ι ε σ} {d : Dedup} (i : ι) (hphase : t.phase i = .called)
      (hmark : t.dedup.mark (leak i) = (false, d)) :
      Step leak t (t.advance d i (.returned none))
  /-- A call marks its leak, which was not seen. -/
  | claim {t : State ι ε σ} {d : Dedup} (i : ι) (hphase : t.phase i = .called)
      (hmark : t.dedup.mark (leak i) = (true, d)) :
      Step leak t (t.advance d i .forwarding)
  /-- A call forwards the leak that it has marked, and returns the answer. -/
  | forward {t : State ι ε σ} {answer : Option ε} {s : σ} (i : ι)
      (hphase : t.phase i = .forwarding) (hanswer : forward (leak i) t.sink = (answer, s)) :
      Step leak t ((t.advance t.dedup i (.returned answer)).deliver ⟨i, leak i, answer⟩ s)

/-- A state that calls come to, starting when none of them has looked, nothing was seen and the
reporter beneath is in the state `s`. -/
def Runs (forward : Leak → σ → Option ε × σ) (leak : ι → Leak) (s : σ) (t : State ι ε σ) : Prop :=
  Relation.ReflTransGen (Step forward leak) { sink := s } t

theorem mark_of_mem {d : Dedup} {l : Leak} (h : l ∈ d.seen) : d.mark l = (false, d) := if_pos h

theorem mark_of_not_mem {d : Dedup} {l : Leak} (h : l ∉ d.seen) :
    d.mark l = (true, ⟨l :: d.seen⟩) := if_neg h

theorem of_mark_false {d d' : Dedup} {l : Leak} (h : d.mark l = (false, d')) :
    l ∈ d.seen ∧ d' = d := by
  by_cases hl : l ∈ d.seen
  · rw [mark_of_mem hl] at h
    cases h
    exact ⟨hl, rfl⟩
  · rw [mark_of_not_mem hl] at h
    cases h

theorem of_mark_true {d d' : Dedup} {l : Leak} (h : d.mark l = (true, d')) :
    l ∉ d.seen ∧ d'.seen = l :: d.seen := by
  by_cases hl : l ∈ d.seen
  · rw [mark_of_mem hl] at h
    cases h
  · rw [mark_of_not_mem hl] at h
    cases h
    exact ⟨hl, rfl⟩

/-- A call that returns without forwarding leaves everything to the call that holds its leak. -/
theorem Consistent.drop {t : State ι ε σ} (h : Consistent leak t) {i : ι}
    (hphase : t.phase i = .called) (hseen : leak i ∈ t.dedup.seen) :
    Consistent leak (t.advance t.dedup i (.returned none)) := by
  have hout := h.ne_of_mem (i := i) (by simp [hphase])
  have hholds : ∀ j, (t.advance t.dedup i (.returned none)).Holds j ↔ t.Holds j := by
    intro j
    by_cases hj : j = i
    · simp [State.Holds, hj, hphase]
    · simp [State.Holds, hj]
  refine ⟨?_, ?_, ?_, ?_, h.calls⟩
  · intro d hd
    simpa [hout d hd] using h.delivered d hd
  · intro j e hj hnot
    by_cases hji : j = i
    · subst hji
      simp only [State.phase_advance, if_true, Phase.returned.injEq] at hj
      exact ⟨hj.symm, hseen⟩
    · exact h.dropped j e (by simpa [hji] using hj) hnot
  · intro j k hj hk
    exact h.unique j k ((hholds j).1 hj) ((hholds k).1 hk)
  · intro l
    simpa [hholds] using h.seen l

/-- A call that marks its leak is the only one that holds it, for it was not seen. -/
theorem Consistent.claim {t : State ι ε σ} (h : Consistent leak t) {i : ι} {d : Dedup}
    (hphase : t.phase i = .called) (hnew : leak i ∉ t.dedup.seen)
    (hd : d.seen = leak i :: t.dedup.seen) : Consistent leak (t.advance d i .forwarding) := by
  have hout := h.ne_of_mem (i := i) (by simp [hphase])
  have hholds : ∀ j, (t.advance d i .forwarding).Holds j ↔ j = i ∨ t.Holds j := by
    intro j
    by_cases hj : j = i
    · simp [State.Holds, hj]
    · simp [State.Holds, hj]
  have hothers : ∀ j, t.Holds j → leak j ≠ leak i := by
    intro j hj heq
    exact hnew ((h.seen _).2 ⟨j, hj, heq⟩)
  refine ⟨?_, ?_, ?_, ?_, h.calls⟩
  · intro d hd
    simpa [hout d hd] using h.delivered d hd
  · intro j e hj hnot
    by_cases hji : j = i
    · simp [hji] at hj
    · obtain ⟨he, hseen⟩ := h.dropped j e (by simpa [hji] using hj) hnot
      exact ⟨he, by simp [hd, hseen]⟩
  · intro j k hj hk heq
    rcases (hholds j).1 hj with rfl | hj'
    · rcases (hholds k).1 hk with rfl | hk'
      · rfl
      · exact absurd heq.symm (hothers k hk')
    · rcases (hholds k).1 hk with rfl | hk'
      · exact absurd heq (hothers j hj')
      · exact h.unique j k hj' hk' heq
  · intro l
    simp only [State.dedup_advance, hholds, hd, List.mem_cons, h.seen l, or_and_right, exists_or,
      exists_eq_left, eq_comm (a := l)]

/-- A call that forwards its leak held it and goes on holding it. -/
theorem Consistent.forward {t : State ι ε σ} (h : Consistent leak t) {i : ι} (answer : Option ε)
    (s : σ) (hphase : t.phase i = .forwarding) :
    Consistent leak
      ((t.advance t.dedup i (.returned answer)).deliver ⟨i, leak i, answer⟩ s) := by
  have hout := h.ne_of_mem (i := i) (by simp [hphase])
  have hholds : ∀ j, ((t.advance t.dedup i (.returned answer)).deliver
      ⟨i, leak i, answer⟩ s).Holds j ↔ t.Holds j := by
    intro j
    by_cases hj : j = i
    · simp [State.Holds, hj, hphase, or_and_right, exists_or]
    · simp [State.Holds, hj, Ne.symm hj, or_and_right, exists_or]
  refine ⟨?_, ?_, ?_, ?_, ?_⟩
  · intro d hd
    rcases List.mem_append.1 hd with hd | hd
    · simpa [hout d hd] using h.delivered d hd
    · simp [List.mem_singleton.1 hd]
  · intro j e hj hnot
    have hji : j ≠ i := by
      rintro rfl
      exact hnot ⟨j, leak j, answer⟩ (by simp) rfl
    refine h.dropped j e (by simpa [hji] using hj) ?_
    intro d hd
    exact hnot d (by simp [hd])
  · intro j k hj hk
    exact h.unique j k ((hholds j).1 hj) ((hholds k).1 hk)
  · intro l
    simpa [hholds] using h.seen l
  · rw [State.deliveries_deliver, State.deliveries_advance, List.map_append, List.nodup_append]
    refine ⟨h.calls, by simp, ?_⟩
    intro j hj k hk
    obtain ⟨d, hd, rfl⟩ := List.mem_map.1 hj
    cases List.mem_singleton.1 hk
    exact hout d hd

variable {forward : Leak → σ → Option ε × σ} {s : σ}

/-- **What a call does at once keeps marks, calls and deliveries together.** -/
theorem Consistent.step {t t' : State ι ε σ} (h : Consistent leak t)
    (hstep : Step forward leak t t') : Consistent leak t' := by
  cases hstep with
  | drop i hphase hmark =>
    obtain ⟨hseen, rfl⟩ := of_mark_false hmark
    exact h.drop hphase hseen
  | claim i hphase hmark =>
    obtain ⟨hnew, hd⟩ := of_mark_true hmark
    exact h.claim hphase hnew hd
  | forward i hphase hanswer => exact h.forward _ _ hphase

/-- In every state that calls come to, marks, calls and deliveries belong together. -/
theorem Runs.consistent {t : State ι ε σ} (h : Runs forward leak s t) : Consistent leak t := by
  induction h with
  | refl => exact .opening s
  | tail _ hstep ih => exact ih.step hstep

/-- The reporter beneath was called with the leaks that were forwarded, one after the other, has
given the answers recorded, and is in the state these calls leave. -/
def Answered (forward : Leak → σ → Option ε × σ) (s : σ) (t : State ι ε σ) : Prop :=
  callEach forward t.forwarded s = (t.deliveries.map Delivery.answer, t.sink)

theorem Answered.step {t t' : State ι ε σ} (h : Answered forward s t)
    (hstep : Step forward leak t t') : Answered forward s t' := by
  cases hstep with
  | drop i hphase hmark => exact h
  | claim i hphase hmark => exact h
  | forward i hphase hanswer =>
    rw [Answered, State.forwarded_deliver, State.forwarded_advance, callEach_concat, h, hanswer,
      State.deliveries_deliver, List.map_append]
    rfl

/-- **To the reporter beneath, calls that overlap are calls with the leaks forwarded, one after the
other.** -/
theorem Runs.answered {t : State ι ε σ} (h : Runs forward leak s t) : Answered forward s t := by
  induction h with
  | refl => rfl
  | tail _ hstep ih => exact ih.step hstep

/-! ## Calls one after the other -/

/-- Reports leaks one after the other. Gives what the calls return. -/
def reportEach (forward : Leak → σ → Option ε × σ) (leaks : List Leak) (d : Dedup) (s : σ) :
    List (Option ε) × Dedup × σ :=
  callEach (fun l t => t.1.report forward l t.2) leaks (d, s)

/-- The leaks seen are those of a list. -/
def Saw (d : Dedup) (before : List Leak) : Prop := ∀ l, l ∈ d.seen ↔ l ∈ before

section
variable (forward : Leak → σ → Option ε × σ) {d : Dedup} {before : List Leak}

theorem report_of_mem {l : Leak} (h : l ∈ d.seen) (s : σ) :
    d.report forward l s = (none, d, s) := by
  rw [report, mark_of_mem h]

theorem report_of_not_mem {l : Leak} (h : l ∉ d.seen) (s : σ) :
    d.report forward l s = ((forward l s).1, ⟨l :: d.seen⟩, (forward l s).2) := by
  rw [report, mark_of_not_mem h]

/-- A report adds its leak to those seen. -/
theorem Saw.report (h : d.Saw before) (l : Leak) (s : σ) :
    (d.report forward l s).2.1.Saw (before ++ [l]) := by
  intro k
  by_cases hl : l ∈ d.seen
  · rw [report_of_mem forward hl, List.mem_append, h k, List.mem_singleton]
    constructor
    · exact .inl
    · rintro (hk | rfl)
      · exact hk
      · exact (h k).1 hl
  · rw [report_of_not_mem forward hl, List.mem_append, List.mem_singleton, ← h k]
    exact List.mem_cons.trans or_comm

theorem reportEach_concat (leaks : List Leak) (l : Leak) (d : Dedup) (s : σ) :
    reportEach forward (leaks ++ [l]) d s =
      ((reportEach forward leaks d s).1 ++
          [((reportEach forward leaks d s).2.1.report forward l
            (reportEach forward leaks d s).2.2).1],
        ((reportEach forward leaks d s).2.1.report forward l
          (reportEach forward leaks d s).2.2).2) :=
  callEach_concat _ leaks l (d, s)

/-- What is seen after reports is what was reported. -/
theorem saw_reportEach (s : σ) (leaks : List Leak) :
    (reportEach forward leaks {} s).2.1.Saw leaks := by
  induction leaks using List.reverseRecOn with
  | nil => exact fun l => Iff.rfl
  | append_singleton leaks l ih =>
    rw [reportEach_concat]
    exact ih.report forward l _

/-- **The reporter beneath gets the first reports.** It ends as if it had been given the distinct
leaks in the order of their first reports and nothing else. -/
theorem reportEach_sink (s : σ) (leaks : List Leak) :
    (reportEach forward leaks {} s).2.2 = (callEach forward leaks.eraseDups s).2 := by
  induction leaks using List.reverseRecOn with
  | nil => rfl
  | append_singleton leaks l ih =>
    have hsaw := saw_reportEach forward s leaks l
    rw [reportEach_concat, eraseDups_concat]
    by_cases hl : l ∈ leaks
    · rw [if_pos hl, report_of_mem forward (hsaw.2 hl), ih]
    · rw [if_neg hl, report_of_not_mem forward fun hseen => hl (hsaw.1 hseen), callEach_concat, ih]

/-- **What each call returns**: nothing if its leak was reported before, and else what the reporter
beneath answers when it has been given the first reports so far. -/
theorem getElem?_reportEach (s : σ) (leaks : List Leak) (k : Nat) :
    (reportEach forward leaks {} s).1[k]? = leaks[k]?.map fun l =>
      if l ∈ leaks.take k then none
      else (forward l (callEach forward (leaks.take k).eraseDups s).2).1 := by
  rw [reportEach, getElem?_callEach]
  congr 1
  funext l
  have hsaw := saw_reportEach forward s (leaks.take k) l
  have hsink := reportEach_sink forward s (leaks.take k)
  by_cases hl : l ∈ leaks.take k
  · rw [if_pos hl]
    exact congrArg Prod.fst (report_of_mem forward (hsaw.2 hl) _)
  · rw [if_neg hl, ← hsink]
    exact congrArg Prod.fst (report_of_not_mem forward (fun hseen => hl (hsaw.1 hseen)) _)

/-- A call that no other one overlaps does what `report` does. -/
theorem report_steps (leak : ι → Leak) {t : State ι ε σ} {i : ι} (hphase : t.phase i = .called) :
    ∃ t', Relation.ReflTransGen (Step forward leak) t t' ∧
      (t'.dedup, t'.sink) = (t.dedup.report forward (leak i) t.sink).2 ∧
      (∀ j, t'.phase j =
        if j = i then .returned (t.dedup.report forward (leak i) t.sink).1 else t.phase j) ∧
      t'.forwarded = if leak i ∈ t.dedup.seen then t.forwarded else t.forwarded ++ [leak i] := by
  by_cases hseen : leak i ∈ t.dedup.seen
  · refine ⟨_, .single (.drop i hphase (mark_of_mem hseen)), ?_⟩
    rw [report_of_mem forward hseen, if_pos hseen]
    exact ⟨rfl, fun j => State.phase_advance .., rfl⟩
  · have hclaim : Step forward leak t _ := .claim i hphase (mark_of_not_mem hseen)
    have hforward : Step forward leak (t.advance ⟨leak i :: t.dedup.seen⟩ i .forwarding) _ :=
      .forward i (by simp) rfl
    refine ⟨_, .head hclaim (.single hforward), ?_⟩
    rw [report_of_not_mem forward hseen, if_neg hseen]
    refine ⟨rfl, ?_, by simp⟩
    intro j
    by_cases hj : j = i
    · simp [hj]
    · simp [hj]

/-- **Reports one after the other are a run**, in which the leaks are forwarded in the order of
their first reports. -/
theorem reportEach_runs (leak : ι → Leak) (s : σ) (calls : List ι) (hcalls : calls.Nodup) :
    ∃ t : State ι ε σ, Runs forward leak s t ∧
      (t.dedup, t.sink) = (reportEach forward (calls.map leak) {} s).2 ∧
      calls.map t.phase = (reportEach forward (calls.map leak) {} s).1.map .returned ∧
      (∀ j ∉ calls, t.phase j = .called) ∧
      t.forwarded = (calls.map leak).eraseDups := by
  induction calls using List.reverseRecOn with
  | nil => exact ⟨{ sink := s }, .refl, rfl, rfl, fun _ _ => rfl, rfl⟩
  | append_singleton calls i ih =>
    obtain ⟨hbefore, hi⟩ : calls.Nodup ∧ i ∉ calls := by
      simpa [List.nodup_append, List.forall_mem_ne'] using hcalls
    obtain ⟨t, hruns, hstate, hreturned, hothers, hforwarded⟩ := ih hbefore
    have hdedup : t.dedup = (reportEach forward (calls.map leak) {} s).2.1 :=
      congrArg Prod.fst hstate
    have hsink : t.sink = (reportEach forward (calls.map leak) {} s).2.2 :=
      congrArg Prod.snd hstate
    obtain ⟨t', hsteps, hstate', hphase, hforwarded'⟩ :=
      report_steps forward leak (hothers i hi)
    have hsaw := saw_reportEach forward s (calls.map leak) (leak i)
    rw [← hdedup] at hsaw
    refine ⟨t', hruns.trans hsteps, ?_, ?_, ?_, ?_⟩
    · rw [hstate', List.map_append, List.map_singleton, reportEach_concat, ← hdedup, ← hsink]
    · have hsame : calls.map t'.phase = calls.map t.phase :=
        List.map_congr_left fun j hj => by rw [hphase, if_neg (by rintro rfl; exact hi hj)]
      rw [List.map_append, List.map_singleton, hsame, hreturned, hphase, if_pos rfl,
        List.map_append, List.map_singleton, reportEach_concat, ← hdedup, ← hsink]
      simp
    · intro j hj
      rw [List.mem_append, List.mem_singleton, not_or] at hj
      rw [hphase, if_neg hj.2, hothers j hj.1]
    · rw [hforwarded', hforwarded, List.map_append, List.map_singleton, eraseDups_concat]
      simp only [hsaw]

end

/-- **Each leak is forwarded once, however the calls overlap**, whatever the reporter beneath
answers and when. At no time has a leak been forwarded twice. When all calls have returned, the
leaks that were forwarded are those that were reported. A call that forwarded has forwarded its own
leak and returned what the reporter beneath answered, which is what it answers to the leaks
forwarded, one after the other; every other call has returned nothing.

Calls made one after the other are such a run, in which the leaks are forwarded in the order of
their first reports. A call whose leak was reported before returns nothing, any other one returns
what the reporter beneath answers after the first reports so far, and this reporter is left as if it
had been given just the first reports. -/
theorem forwards_each_once (leak : ι → Leak) (forward : Leak → σ → Option ε × σ) (s : σ) :
    (∀ t : State ι ε σ, Runs forward leak s t →
      t.forwarded.Nodup ∧
      (t.Done → ∀ l, l ∈ t.forwarded ↔ ∃ i, leak i = l) ∧
      (∀ d ∈ t.deliveries, d.leak = leak d.call ∧ t.phase d.call = .returned d.answer) ∧
      callEach forward t.forwarded s = (t.deliveries.map Delivery.answer, t.sink) ∧
      ∀ i e, t.phase i = .returned e → (∀ d ∈ t.deliveries, d.call ≠ i) → e = none) ∧
    ∀ calls : List ι, calls.Nodup →
      (∃ t : State ι ε σ, Runs forward leak s t ∧
        t.forwarded = (calls.map leak).eraseDups ∧
        calls.map t.phase = (reportEach forward (calls.map leak) {} s).1.map .returned ∧
        (t.dedup, t.sink) = (reportEach forward (calls.map leak) {} s).2) ∧
      (∀ k, (reportEach forward (calls.map leak) {} s).1[k]? =
        (calls.map leak)[k]?.map fun l =>
          if l ∈ (calls.map leak).take k then none
          else (forward l (callEach forward ((calls.map leak).take k).eraseDups s).2).1) ∧
      (reportEach forward (calls.map leak) {} s).2.2 =
        (callEach forward (calls.map leak).eraseDups s).2 := by
  refine ⟨?_, ?_⟩
  · intro t ht
    have h := ht.consistent
    exact ⟨h.nodup_forwarded, fun hdone l => h.mem_forwarded hdone, h.delivered, ht.answered,
      fun i e hi hnot => (h.dropped i e hi hnot).1⟩
  · intro calls hcalls
    obtain ⟨t, hruns, hstate, hreturned, -, hforwarded⟩ :=
      reportEach_runs forward leak s calls hcalls
    exact ⟨⟨t, hruns, hforwarded, hreturned, hstate⟩,
      getElem?_reportEach forward s (calls.map leak), reportEach_sink forward s (calls.map leak)⟩

namespace Sample

/-- Three calls, of which the first two report the same leak. -/
def reported (i : Fin 3) : Leak :=
  ⟨⟨0, "p.F", 1⟩, some ⟨0, "t0 = getSecret()", 10⟩,
    some ⟨if i = 2 then 2 else 1, "return t0", 20⟩⟩

/-- A reporter that refuses every leak and says how many it was given before. -/
def refusing (_ : Leak) (given : Nat) : Option Nat × Nat := (some given, given + 1)

/-- The second call comes between the mark and the delivery of the first one, and the third one
forwards its leak before the first does. -/
theorem overlapping_runs : ∃ t : State (Fin 3) Nat Nat, Runs refusing reported 0 t ∧ t.Done ∧
    t.deliveries = [⟨2, reported 2, some 0⟩, ⟨0, reported 0, some 1⟩] ∧ t.sink = 2 ∧
    [0, 1, 2].map t.phase = [.returned (some 1), .returned none, .returned (some 0)] := by
  have h₁ : Step refusing reported { sink := 0 } _ := .claim 0 rfl rfl
  have h₂ := (Relation.ReflTransGen.single h₁).tail (.drop 1 rfl rfl)
  have h₃ := h₂.tail (.claim 2 rfl rfl)
  have h₄ := h₃.tail (.forward 2 rfl rfl)
  have h₅ := h₄.tail (.forward 0 rfl rfl)
  refine ⟨_, h₅, ?_, rfl, rfl, rfl⟩
  intro i
  match i with
  | 0 | 1 | 2 => exact ⟨_, rfl⟩

/-- Each of the two leaks of these calls is forwarded once, the calls that forward return the
refusals in the order of the deliveries, and the call that does not returns nothing. One after the
other, the calls forward the leak of the first call first, and the third one gets the second
refusal. -/
theorem overlapping_forwards_once :
    (∃ t : State (Fin 3) Nat Nat, Runs refusing reported 0 t ∧
      t.forwarded = [reported 2, reported 0] ∧ (∀ i, reported i ∈ t.forwarded) ∧
      callEach refusing t.forwarded 0 = ([some 0, some 1], 2) ∧
      t.phase 2 = .returned (some 0) ∧ t.phase 0 = .returned (some 1) ∧
      ∀ e, t.phase 1 = .returned e → e = none) ∧
    ((reportEach refusing ([0, 1, 2].map reported) {} 0).1[0]? = some (some 0) ∧
      (reportEach refusing ([0, 1, 2].map reported) {} 0).1[1]? = some none ∧
      (reportEach refusing ([0, 1, 2].map reported) {} 0).1[2]? = some (some 1) ∧
      (reportEach refusing ([0, 1, 2].map reported) {} 0).2.2 = 2) := by
  obtain ⟨hoverlap, hturn⟩ := forwards_each_once reported refusing 0
  constructor
  · obtain ⟨t, ht, hdone, hdeliveries, hsink, -⟩ := overlapping_runs
    obtain ⟨-, hmem, hown, hanswers, hothers⟩ := hoverlap t ht
    refine ⟨t, ht, ?_, fun i => (hmem hdone _).2 ⟨i, rfl⟩, ?_, ?_, ?_, ?_⟩
    · rw [State.forwarded, hdeliveries]
      rfl
    · rw [hanswers, hdeliveries, hsink]
      rfl
    · exact (hown ⟨2, reported 2, some 0⟩ (by simp [hdeliveries])).2
    · exact (hown ⟨0, reported 0, some 1⟩ (by simp [hdeliveries])).2
    · intro e he
      exact hothers 1 e he (by simp [hdeliveries])
  · obtain ⟨-, hreturned, hleft⟩ := hturn [0, 1, 2] (by decide)
    rw [hreturned, hreturned, hreturned, hleft]
    decide

end Sample

end LeakCheck.Dedup
