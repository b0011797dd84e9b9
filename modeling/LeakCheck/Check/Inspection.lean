import LeakCheck.Config.Basic
import LeakCheck.Dump.Write
import LeakCheck.Log.Logger

/-!
# The inspection of a function

A function is analysed, its leaks at suppressed positions are left out, and what happened is logged.
`inspect` says what comes of it without any effect; `examine` writes the log and the dump.
-/

namespace LeakCheck.Check

open Log (Logger Record Sinks)
open Ssa (AnalyzeError Outcome Program)

/-- What comes of the analysis of a function. -/
structure Inspection where
  /-- The records, in the order they were made. -/
  records : List Record
  /-- The leaks that are not suppressed, in the order they were found. -/
  leaks : List Leak
  /-- The facts, or why there are none. -/
  result : Except (AnalyzeError Empty) Outcome

/-- The position of a leak: that of its site, and if it has none that of the function. -/
def leakPos (p : Program) (f : Nat) (l : Leak) : Pos :=
  if l.site.pos.isValid then l.site.pos else (p.get f).pos

/-- What the analysis of a function tells: records and leaks. -/
abbrev Notes := List Record × List Leak

/-- Takes notes of the analysis of a function. -/
def noteTaker (p : Program) (suppressed : Pos → Bool) (suppression : Leak → Record) (f : Nat) :
    Propagation.Host Notes Empty where
  note e s := (s.1 ++ [e.record (p.procedure f)], s.2)
  report l s :=
    if suppressed (leakPos p f l) then (none, (s.1 ++ [suppression l], s.2))
    else (none, (s.1, s.2 ++ [l]))

/-- Analyses a function. Leaks at suppressed positions are noted by a record of their own. -/
def inspect (p : Program) (secret : String) (suppressed : Pos → Bool)
    (suppression : Leak → Record) (f : Nat) : Inspection :=
  let (result, notes) := p.analyze secret (noteTaker p suppressed suppression f) f ([], [])
  ⟨notes.1, notes.2, result⟩

/-! ## Records -/

/-- The field that names a function. -/
def procedureField (p : Program) (f : Nat) : String × Log.Field :=
  ("procedure", .text (p.get f).text)

/-- The record of a function that is not analysed. -/
def excludedRecord (p : Program) (f : Nat) : Record :=
  ⟨.debug, "excluded by configuration", [procedureField p f]⟩

/-- The record of a leak that is suppressed. -/
def suppressedRecord (more : List (String × Log.Field)) (l : Leak) : Record :=
  ⟨.debug, "leak suppressed by comment", more ++ [("site", .text l.site.text)]⟩

/-- The record of a dump that was not written. -/
def undumpedRecord (p : Program) (f : Nat) (e : Storage.PathError) : Record :=
  ⟨.warn, "could not write debug output", [("error", .text e.message), procedureField p f]⟩

/-! ## Effects -/

/-- Writes records. -/
def writeAll (logger : Logger) (records : List Record) (s : Sinks) : Sinks :=
  records.foldl (fun s r => logger.write r s) s

/-- Writes the dump of a function if the configuration asks for it; a failure is logged. -/
def dump (conf : Config) (logger : Logger) (p : Program) (f : Nat) (o : Outcome) (s : Sinks) :
    Sinks :=
  if conf.dumps = "" then s
  else
    match Dump.write conf.dumps (p.get f) o s.workspace with
    | (none, workspace) => { s with workspace }
    | (some e, workspace) => logger.write (undumpedRecord p f e) { s with workspace }

/-- What became of a function. -/
inductive Status where
  /-- It has no body. -/
  | bodiless
  /-- It was analysed. -/
  | analyzed
  /-- Its analysis failed. -/
  | failed (e : AnalyzeError Empty)

/-- What the result of the analysis of a function makes of it. -/
def Status.ofResult : Except (AnalyzeError Empty) Outcome → Status
  | .ok _ => .analyzed
  | .error (.noBody _) => .bodiless
  | .error e => .failed e

/-- Writes what came of the analysis of a function. -/
def conclude (conf : Config) (logger : Logger) (p : Program) (f : Nat) (i : Inspection)
    (s : Sinks) : Status × Sinks :=
  let s := writeAll logger i.records s
  let s :=
    match i.result with
    | .ok o => dump conf logger p f o s
    | .error _ => s
  (.ofResult i.result, s)

/-- Whether a function is not analysed. -/
def isExcluded (conf : Config) (p : Program) (f : Nat) : Bool :=
  let (path, receiver, name) := p.decompose f
  conf.isExcluded path receiver name

end LeakCheck.Check
