import LeakCheck.Batch.Program
import LeakCheck.Check.Inspection

/-!
# Batch analysis

All functions of a program are analysed, each for itself, and their leaks are collected. The order
in which the functions are taken does not show in the result.
-/

namespace LeakCheck.Batch

open Check (Inspection Status)
open Log (Logger Record Sinks)

/-- What went wrong in a batch. -/
inductive Failure where
  /-- The analysis of a function failed. -/
  | function (text : String) (e : Ssa.AnalyzeError Empty)
  /-- The analysis of a function broke down, with a value that tells why. -/
  | panicked (text value : String)
  /-- A function was not taken on for its analysis, for a reason. -/
  | refused (text reason : String)
  /-- The batch was cancelled. -/
  | cancelled

/-- The wording of a failure. -/
def Failure.message : Failure → String
  | .function text e => text ++ ": " ++ e.message fun x => nomatch x
  | .panicked text value => "analyzing " ++ text ++ ": panic: " ++ value
  | .refused text reason => "submitting " ++ text ++ ": " ++ reason
  | .cancelled => "context canceled"

/-- What a batch has come to so far. -/
structure Tally where
  /-- The leaks so far. -/
  collector : Collector := {}
  /-- The number of functions that were analysed. -/
  analyzed : Nat := 0
  /-- The number of functions that are not analysed. -/
  excluded : Nat := 0
  /-- What went wrong. -/
  failures : List Failure := []

/-- What came of a batch. -/
structure Result where
  /-- The leaks, in their order. -/
  leaks : List Leak
  /-- The number of functions that were analysed. -/
  analyzed : Nat
  /-- The number of functions that are not analysed. -/
  excluded : Nat
  /-- What went wrong. -/
  failures : List Failure

/-- The wording of what went wrong, if anything did. -/
def Result.error? (r : Result) : Option String :=
  if r.failures.isEmpty then none else some (Text.join "\n" (r.failures.map Failure.message))

/-- What comes of the analysis of a function. -/
def Loaded.inspect (l : Loaded) (conf : Config) (f : Nat) : Inspection :=
  Check.inspect l.program conf.secret (l.isSuppressed f)
    (Check.suppressedRecord [Check.procedureField l.program f]) f

/-- Notes that something went wrong. -/
def Tally.fail (b : Tally) (e : Failure) : Tally := { b with failures := b.failures ++ [e] }

/-- Counts what became of the function with a text. -/
def Tally.count (b : Tally) (text : String) : Status → Tally
  | .analyzed => { b with analyzed := b.analyzed + 1 }
  | .bodiless => b
  | .failed e => b.fail (.function text e)

/-- Takes what came of a function into a batch. -/
def Tally.take (b : Tally) (text : String) (i : Inspection) (status : Status) : Tally :=
  { b with collector := i.leaks.foldl Collector.report b.collector }.count text status

/-- Takes one function: it is left out or analysed. -/
def Loaded.step (l : Loaded) (conf : Config) (logger : Logger) (f : Nat) (b : Tally) (s : Sinks) :
    Tally × Sinks :=
  if Check.isExcluded conf l.program f then
    ({ b with excluded := b.excluded + 1 }, logger.write (Check.excludedRecord l.program f) s)
  else
    let i := l.inspect conf f
    let (status, s) := Check.conclude conf logger l.program f i s
    (b.take (l.program.get f).text i status, s)

/-- Takes functions one after the other. -/
def Loaded.steps (l : Loaded) (conf : Config) (logger : Logger) :
    List Nat → Tally → Sinks → Tally × Sinks
  | [], b, s => (b, s)
  | f :: rest, b, s =>
    let (b, s) := l.step conf logger f b s
    l.steps conf logger rest b s

/-- How a batch is run. -/
structure Options where
  /-- The number of functions that are analysed at once; as many as there are processors if it is
  not positive. -/
  concurrency : Int := 0
  /-- The number of processors. -/
  processors : Nat := 1
  /-- Whether the batch was cancelled before it began. -/
  cancelled : Bool := false
  deriving Repr, Inhabited

/-- The number of functions that are analysed at once. -/
def Options.workers (o : Options) : Int :=
  if o.concurrency ≤ 0 then o.processors else o.concurrency

/-- The record of the beginning of a batch. -/
def startRecord (functions : Nat) (workers : Int) : Record :=
  ⟨.info, "starting batch analysis",
    [("functions", .number functions), ("workers", .number workers)]⟩

/-- The record of the end of a batch. -/
def doneRecord (r : Result) : Record :=
  ⟨.info, "batch analysis done",
    [("analyzed", .number r.analyzed), ("excluded", .number r.excluded),
      ("leaks", .number r.leaks.length)]⟩

/-- What came of a batch when all functions were taken. -/
def Tally.result (b : Tally) (cancelled : Bool) : Result :=
  ⟨b.collector.leaks, b.analyzed, b.excluded,
    b.failures ++ if cancelled then [.cancelled] else []⟩

/-- Analyses all functions of a program. A batch that was cancelled takes none. -/
def Loaded.analyze (l : Loaded) (conf : Config) (o : Options) (logger : Logger) (s : Sinks) :
    Result × Sinks :=
  let functions := l.sourceFunctions
  let s := logger.write (startRecord functions.length o.workers) s
  let (b, s) := l.steps conf logger (if o.cancelled then [] else functions) {} s
  let r := b.result o.cancelled
  (r, logger.write (doneRecord r) s)

/-- Analyses the program that was loaded for patterns. -/
def run (loading : Loading) (patterns : List String) (conf : Config) (o : Options)
    (logger : Logger) (s : Sinks) : Except LoadError Result × Sinks :=
  match loading.get patterns with
  | .error e => (.error e, s)
  | .ok l =>
    let (r, s) := l.analyze conf o logger s
    (.ok r, s)

end LeakCheck.Batch
