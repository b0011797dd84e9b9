import LeakCheck.Batch.Run
import LeakCheck.Proofs.Check.Inspection
import Mathlib.Data.Multiset.AddSub
import Mathlib.Logic.Relation

/-!
# Schedules of a batch

The functions of a batch are analysed at once. The main loop takes them in their order, and looks
each time whether the batch is cancelled before it excludes or submits the function; workers start
what was submitted in any order, each of them looking again; the reports of the analyses under way
reach the collector one at a time, in any order; and the batch may be cancelled at any moment.
`Setting.Step` has one constructor for each of these events, and a run of a batch is a sequence of
them (`Setting.Completes`).

An analysis may break down, and a function that is submitted may be refused. Nothing is assumed
about which are and where: that is part of the `Setting`, and results about all settings are results
about any breakdown. The number of workers is not limited, so the runs with a limit are among those
that are described here.
-/

namespace LeakCheck.Batch

open Check (Status)

/-! ## The functions of a batch -/

/-- What keeps the analysis of a function from its end. -/
inductive Breakdown where
  /-- The function is refused when it is submitted, for a reason. -/
  | refused (reason : String)
  /-- The analysis panics after a number of reports, with a value that tells why. -/
  | panicked (reports : Nat) (value : String)

/-- What a batch depends on, apart from its schedule. -/
structure Setting where
  /-- The program. -/
  loaded : Loaded
  /-- The configuration. -/
  conf : Config
  /-- Where the analysis of a function breaks down, if it does. -/
  breakdown? : Nat → Option Breakdown := fun _ => none

/-- How the analysis of a function ends. -/
inductive Ending where
  /-- It comes to a status. -/
  | status (s : Status)
  /-- It panics. -/
  | panicked (value : String)
  /-- It does not begin, for the function is refused. -/
  | refused (reason : String)

/-- What went wrong with the function that has a text, if anything did. -/
def Ending.failure? (text : String) : Ending → Option Failure
  | .status .analyzed => none
  | .status .bodiless => none
  | .status (.failed e) => some (.function text e)
  | .panicked value => some (.panicked text value)
  | .refused reason => some (.refused text reason)

/-- Whether the function counts as analysed. -/
def Ending.isAnalyzed : Ending → Bool
  | .status .analyzed => true
  | _ => false

/-- A function under analysis. -/
structure Task where
  /-- The function. -/
  function : Nat
  /-- The leaks that it has not reported yet, in their order. -/
  calls : List Leak
  /-- How it will end. -/
  ending : Ending

namespace Setting

/-- The functions that the main loop takes, in their order. -/
def functions (b : Setting) : List Nat := b.loaded.sourceFunctions

/-- Whether the configuration excludes a function. -/
def excludes (b : Setting) (f : Nat) : Bool := Check.isExcluded b.conf b.loaded.program f

/-- How a function is shown. -/
def text (b : Setting) (f : Nat) : String := (b.loaded.program.get f).text

/-- Whether a function has a body. -/
def hasBody (b : Setting) (f : Nat) : Bool := (b.loaded.program.get f).graph.isOk

/-- Whether a comment suppresses a leak of a function. -/
def suppresses (b : Setting) (f : Nat) (leak : Leak) : Bool :=
  b.loaded.isSuppressed f (Check.leakPos b.loaded.program f leak)

/-- The leaks of a function: all that its analysis reports if it does not break down. -/
def leaks (b : Setting) (f : Nat) : List Leak := b.loaded.program.leaks b.conf.secret f

/-- The analysis of a function before its first report. -/
def task (b : Setting) (f : Nat) : Task :=
  match b.breakdown? f with
  | none => ⟨f, b.leaks f, .status (.ofResult (b.loaded.program.result b.conf.secret f))⟩
  | some (.panicked reports value) => ⟨f, (b.leaks f).take reports, .panicked value⟩
  | some (.refused reason) => ⟨f, [], .refused reason⟩

/-- The leaks that the analysis of a function reports, up to where it breaks down. -/
def calls (b : Setting) (f : Nat) : List Leak := (b.task f).calls

/-- What goes wrong with a function when it is analysed, if anything does. -/
def failure? (b : Setting) (f : Nat) : Option Failure := (b.task f).ending.failure? (b.text f)

theorem task_function (b : Setting) (f : Nat) : (b.task f).function = f := by
  unfold task
  rcases b.breakdown? f with _ | _ | _
  all_goals rfl

theorem task_of_refused {b : Setting} {f : Nat} {reason : String}
    (h : b.breakdown? f = some (.refused reason)) : b.task f = ⟨f, [], .refused reason⟩ := by
  rw [task, h]

/-- A function whose analysis does not fail reports all its leaks. -/
theorem calls_eq_leaks {b : Setting} {f : Nat} (h : b.failure? f = none) :
    b.calls f = b.leaks f := by
  unfold failure? task at h
  unfold calls task
  rcases hd : b.breakdown? f with _ | _ | _
  case none => rfl
  all_goals
    rw [hd] at h
    cases h

/-- The functions that count as analysed are those with a body that do not fail. -/
theorem isAnalyzed_task (b : Setting) (f : Nat) :
    (b.task f).ending.isAnalyzed = (b.hasBody f && (b.failure? f).isNone) := by
  have hbody := b.loaded.program.result_noBody_iff b.conf.secret f
  unfold failure? task hasBody
  rcases b.breakdown? f with _ | _ | _
  case some.refused | some.panicked => exact (Bool.and_false _).symm
  case none =>
    cases hresult : b.loaded.program.result b.conf.secret f with
    | ok o =>
      have hok : (b.loaded.program.get f).graph.isOk = true := by
        rw [← Bool.not_eq_false, ← hbody, hresult]
        rintro ⟨e, he⟩
        cases he
      rw [hok]
      rfl
    | error e =>
      cases e with
      | failed e => exact (Bool.and_false _).symm
      | noBody e =>
        rw [hbody.1 ⟨e, hresult⟩]
        rfl

end Setting

/-! ## Steps -/

/-- Takes a report into a batch, unless it is suppressed. -/
def Tally.receive (tally : Tally) (suppressed : Bool) (leak : Leak) : Tally :=
  if suppressed then tally else { tally with collector := tally.collector.report leak }

/-- Counts the end of the analysis of the function with a text. -/
def Tally.close (tally : Tally) (text : String) : Ending → Tally
  | .status s => tally.count text s
  | .panicked value => tally.fail (.panicked text value)
  | .refused reason => tally.fail (.refused text reason)

/-- A batch under way. -/
structure State where
  /-- The functions that the main loop has not come to. -/
  pending : List Nat
  /-- The function that the main loop deals with: it has found the batch not cancelled. -/
  current : Option Nat := none
  /-- The functions that were submitted and not taken by a worker. -/
  queued : Multiset Nat := 0
  /-- The functions under analysis. -/
  running : Multiset Task := 0
  /-- What the batch has come to so far. -/
  tally : Tally := {}
  /-- Whether the batch was cancelled. -/
  cancelled : Bool := false
  /-- The functions that the main loop has excluded or submitted, in their order. -/
  visited : List Nat := []
  /-- The functions whose analysis was started, in the order of the starts, and among them those
  that were refused. -/
  begun : List Nat := []

/-- What comes of a batch that stops in a state. -/
def State.result (t : State) : Result := t.tally.result t.cancelled

/-- Nothing is left to do. -/
structure State.Done (t : State) : Prop where
  pending : t.pending = []
  current : t.current = none
  queued : t.queued = 0
  running : t.running = 0

namespace Setting

/-- The events of a batch. -/
inductive Step (b : Setting) : State → State → Prop
  /-- The batch is cancelled. -/
  | cancel (t : State) : Step b t { t with cancelled := true }
  /-- The main loop comes to the next function. -/
  | check {t : State} {f : Nat} {rest : List Nat} (hpending : t.pending = f :: rest)
      (hfree : t.current = none) (hgo : t.cancelled = false) :
      Step b t { t with pending := rest, current := some f }
  /-- The main loop finds the batch cancelled and takes no more functions. -/
  | leave {t : State} (hfree : t.current = none) (hstop : t.cancelled = true) :
      Step b t { t with pending := [] }
  /-- The main loop excludes a function. -/
  | exclude {t : State} {f : Nat} (hcurrent : t.current = some f)
      (hexcluded : b.excludes f = true) :
      Step b t
        { t with
          current := none
          visited := t.visited ++ [f]
          tally := { t.tally with excluded := t.tally.excluded + 1 } }
  /-- The main loop submits a function, which is taken on. -/
  | submit {t : State} {f : Nat} (hcurrent : t.current = some f)
      (hincluded : b.excludes f = false)
      (haccepted : ∀ reason, b.breakdown? f ≠ some (.refused reason)) :
      Step b t
        { t with current := none, visited := t.visited ++ [f], queued := f ::ₘ t.queued }
  /-- The main loop submits a function, which is refused. -/
  | refuse {t : State} {f : Nat} {reason : String} (hcurrent : t.current = some f)
      (hincluded : b.excludes f = false)
      (hrefused : b.breakdown? f = some (.refused reason)) :
      Step b t
        { t with
          current := none
          visited := t.visited ++ [f]
          begun := t.begun ++ [f]
          tally := t.tally.close (b.text f) (.refused reason) }
  /-- A worker starts the analysis of a function. -/
  | start {t : State} (f : Nat) (others : Multiset Nat) (hqueued : t.queued = f ::ₘ others)
      (hgo : t.cancelled = false) :
      Step b t
        { t with
          queued := others
          begun := t.begun ++ [f]
          running := b.task f ::ₘ t.running }
  /-- A worker finds the batch cancelled and drops a function. -/
  | drop {t : State} (f : Nat) (others : Multiset Nat) (hqueued : t.queued = f ::ₘ others)
      (hstop : t.cancelled = true) : Step b t { t with queued := others }
  /-- An analysis reports its next leak. -/
  | report {t : State} (task : Task) (others : Multiset Task) {leak : Leak} {rest : List Leak}
      (hrunning : t.running = task ::ₘ others) (hcalls : task.calls = leak :: rest) :
      Step b t
        { t with
          running := { task with calls := rest } ::ₘ others
          tally := t.tally.receive (b.suppresses task.function leak) leak }
  /-- An analysis ends. -/
  | finish {t : State} (task : Task) (others : Multiset Task)
      (hrunning : t.running = task ::ₘ others) (hcalls : task.calls = []) :
      Step b t
        { t with
          running := others
          tally := t.tally.close (b.text task.function) task.ending }

/-- The state in which a batch begins. -/
def opening (b : Setting) : State := { pending := b.functions }

/-- A whole run of a batch, by the state in which it stops. The batch may have been cancelled after
everything was done. -/
structure Completes (b : Setting) (t : State) : Prop where
  steps : Relation.ReflTransGen b.Step b.opening t
  done : t.Done

end Setting

end LeakCheck.Batch
