import LeakCheck.Proofs.Batch.Schedule
import LeakCheck.Proofs.Leak.Collector

/-!
# The batch without concurrency

`Loaded.analyze` takes the functions one after the other. That is one of the schedules: every
function is submitted, started, followed through its reports and finished before the main loop
comes to the next one (`Setting.completes_in_order`), so `Loaded.analyze` gives the result of a run
(`Loaded.analyze_completes`).
-/

namespace LeakCheck.Batch

open Relation (ReflTransGen)

namespace Setting

variable (b : Setting)

/-- What a batch comes to when the reports of a function are taken in. -/
def hears (f : Nat) (tally : Tally) (calls : List Leak) : Tally :=
  calls.foldl (fun tally leak => tally.receive (b.suppresses f leak) leak) tally

/-- What a batch comes to when it takes a function while nothing else happens. -/
def takes (tally : Tally) (f : Nat) : Tally :=
  if b.excludes f then { tally with excluded := tally.excluded + 1 }
  else (b.hears f tally (b.calls f)).close (b.text f) (b.task f).ending

/-- An analysis may report all its leaks before anything else happens. -/
theorem steps_reports (f : Nat) (calls : List Leak) (ending : Ending) {t : State}
    (hrunning : t.running = {⟨f, calls, ending⟩}) :
    ReflTransGen b.Step t
      { t with running := {⟨f, [], ending⟩}, tally := b.hears f t.tally calls } := by
  induction calls generalizing t with
  | nil =>
    rw [← hrunning]
    exact .refl
  | cons leak rest ih =>
    refine .head (.report ⟨f, leak :: rest, ending⟩ 0 hrunning rfl) ?_
    -- from the state after the report, with the rest of the calls
    exact ih rfl

/-- An analysis may be taken from its start to its end before anything else happens. -/
theorem steps_task (f : Nat) {t : State} (hqueued : t.queued = {f}) (hrunning : t.running = 0)
    (hgo : t.cancelled = false) :
    ReflTransGen b.Step t
      { t with
        queued := 0
        begun := t.begun ++ [f]
        tally := (b.hears f t.tally (b.calls f)).close (b.text f) (b.task f).ending } := by
  have htask : b.task f = ⟨f, b.calls f, (b.task f).ending⟩ := by
    rw [Task.mk.injEq]
    exact ⟨b.task_function f, rfl, rfl⟩
  refine .head (.start f 0 hqueued hgo) ?_
  rw [hrunning]
  refine (b.steps_reports f (b.calls f) (b.task f).ending ?_).trans ?_
  · rw [← htask]
    rfl
  · refine .head (.finish ⟨f, [], (b.task f).ending⟩ 0 rfl rfl) ?_
    rw [← hrunning]

/-- A function may be dealt with before anything else happens. -/
theorem steps_function (f : Nat) (rest : List Nat) (tally : Tally) (visited begun : List Nat) :
    ReflTransGen b.Step { pending := f :: rest, tally, visited, begun }
      { pending := rest
        tally := b.takes tally f
        visited := visited ++ [f]
        begun := begun ++ [f].filter (!b.excludes ·) } := by
  refine .head (.check rfl rfl rfl) ?_
  unfold takes
  cases hexcluded : b.excludes f with
  | true =>
    rw [List.filter_cons_of_neg (by simp [hexcluded]), List.filter_nil, List.append_nil]
    exact .single (.exclude rfl hexcluded)
  | false =>
    rw [List.filter_cons_of_pos (by simp [hexcluded]), List.filter_nil]
    by_cases hrefused : ∃ reason, b.breakdown? f = some (.refused reason)
    · obtain ⟨reason, hrefused⟩ := hrefused
      rw [calls, b.task_of_refused hrefused]
      exact .single (.refuse rfl hexcluded hrefused)
    · exact .head (.submit rfl hexcluded (not_exists.1 hrefused)) (b.steps_task f rfl rfl rfl)

/-- Functions may be taken one after the other. -/
theorem steps_functions (functions : List Nat) (tally : Tally) (visited begun : List Nat) :
    ReflTransGen b.Step { pending := functions, tally, visited, begun }
      { pending := []
        tally := functions.foldl b.takes tally
        visited := visited ++ functions
        begun := begun ++ functions.filter (!b.excludes ·) } := by
  induction functions generalizing tally visited begun with
  | nil =>
    rw [List.filter_nil, List.append_nil, List.append_nil]
    exact .refl
  | cons f rest ih =>
    refine (b.steps_function f rest tally visited begun).trans ?_
    have hrest := ih (b.takes tally f) (visited ++ [f]) (begun ++ [f].filter (!b.excludes ·))
    rwa [List.append_assoc, List.append_assoc, ← List.filter_append] at hrest

/-- **A batch may take its functions one after the other**, without being cancelled. -/
theorem completes_in_order :
    b.Completes
      { pending := []
        tally := b.functions.foldl b.takes {}
        visited := b.functions
        begun := b.functions.filter (!b.excludes ·) } :=
  ⟨b.steps_functions b.functions {} [] [], ⟨rfl, rfl, rfl, rfl⟩⟩

/-- A batch that is cancelled at once takes no function. -/
theorem completes_cancelled : b.Completes { pending := [], cancelled := true } :=
  ⟨.head (.cancel b.opening) (.single (.leave rfl rfl)), ⟨rfl, rfl, rfl, rfl⟩⟩

/-- Of the reports of a function the collector gets those that are not suppressed. -/
theorem hears_eq (f : Nat) (tally : Tally) (calls : List Leak) :
    b.hears f tally calls =
      { tally with
        collector :=
          (calls.filter (!b.suppresses f ·)).foldl Collector.report tally.collector } := by
  unfold hears
  induction calls generalizing tally with
  | nil => rfl
  | cons leak rest ih =>
    rw [List.foldl_cons, ih, Tally.receive]
    cases hsup : b.suppresses f leak with
    | true => rw [List.filter_cons_of_neg (by simp [hsup])]; rfl
    | false => rw [List.filter_cons_of_pos (by simp [hsup])]; rfl

end Setting

namespace Loaded

/-- A batch that nothing breaks down in takes functions as `Loaded.step` does. -/
theorem step_fst (l : Loaded) (conf : Config) (logger : Log.Logger) (f : Nat) (tally : Tally)
    (s : Log.Sinks) :
    (l.step conf logger f tally s).1 = ({ loaded := l, conf } : Setting).takes tally f := by
  unfold step Setting.takes Setting.excludes
  cases Check.isExcluded conf l.program f with
  | true => rfl
  | false =>
    have hleaks : (l.inspect conf f).leaks = (l.program.leaks conf.secret f).filter
        (!({ loaded := l, conf } : Setting).suppresses f ·) := Check.inspect_leaks ..
    have hresult : (l.inspect conf f).result = l.program.result conf.secret f :=
      Check.inspect_result ..
    rw [Setting.hears_eq]
    show Tally.take _ _ _ (.ofResult (l.inspect conf f).result) = _
    rw [Tally.take, hleaks, hresult]
    rfl

theorem steps_fst (l : Loaded) (conf : Config) (logger : Log.Logger) (functions : List Nat)
    (tally : Tally) (s : Log.Sinks) :
    (l.steps conf logger functions tally s).1 =
      functions.foldl ({ loaded := l, conf } : Setting).takes tally := by
  induction functions generalizing tally s with
  | nil => rfl
  | cons f rest ih => rw [steps, ih, step_fst, List.foldl_cons]

/-- **`Loaded.analyze` gives the result of a run** in which nothing breaks down. -/
theorem analyze_completes (l : Loaded) (conf : Config) (o : Options) (logger : Log.Logger)
    (s : Log.Sinks) :
    ∃ t, ({ loaded := l, conf } : Setting).Completes t ∧ t.cancelled = o.cancelled ∧
      (l.analyze conf o logger s).1 = t.result := by
  unfold analyze
  dsimp only
  rw [steps_fst]
  cases o.cancelled with
  | true => exact ⟨_, Setting.completes_cancelled _, rfl, rfl⟩
  | false => exact ⟨_, Setting.completes_in_order _, rfl, rfl⟩

end Loaded

end LeakCheck.Batch
