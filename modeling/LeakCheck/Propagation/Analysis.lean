import LeakCheck.Dataflow.Solver
import LeakCheck.Leak.Basic
import LeakCheck.Propagation.Event
import LeakCheck.Propagation.Transfer

/-!
# The analysis of a procedure

`Analysis.run` propagates secrets through the control-flow graph of a procedure and reports every
pair of an origin and a site where the secret escapes, once. What is done with a report or a log
event is up to the `Host`, a pair of functions on the state of the caller.
-/

namespace LeakCheck.Propagation

/-- The secret operation that is looked for when none is named. -/
def defaultSecret : String := "getSecret"

/-- The secret operation that is looked for when this one is named. -/
def secretOperation (named : String) : String := if named = "" then defaultSecret else named

/-- What the analysis tells its caller, whose states are `σ` and whose errors are `ε`. -/
structure Host (σ ε : Type) where
  /-- Takes notice of an event. -/
  note : Event → σ → σ
  /-- Takes a leak; an error ends the analysis. -/
  report : Leak → σ → Option ε × σ

/-- The analysis of one procedure. -/
structure Analysis where
  /-- The procedure. -/
  proc : Procedure
  /-- The operation whose result is a secret, compared without regard to case. -/
  secret : String
  /-- The statement at every vertex. -/
  statement : Vertex → Statement

/-- The analysis of a procedure that looks for the secret operation named. -/
def Analysis.of (proc : Procedure) (named : String) (statement : Vertex → Statement) : Analysis :=
  ⟨proc, secretOperation named, statement⟩

/-- What an analysis keeps between its calls. -/
structure Session (σ : Type) where
  /-- The pairs of origin and site that were reported. -/
  reported : List (Vertex × Vertex)
  /-- The state of the caller. -/
  client : σ

/-- A report that failed. -/
structure ReportError (ε : Type) where
  /-- The origin of the leak. -/
  origin : Vertex
  /-- The site of the leak. -/
  site : Vertex
  /-- What the caller said. -/
  cause : ε
  deriving Repr, Inhabited

/-- The wording of a failed report. -/
def ReportError.message {ε : Type} (cause : ε → String) (e : ReportError ε) : String :=
  "reporting leak of " ++ e.origin.text ++ " at " ++ e.site.text ++ ": " ++ cause e.cause

/-- Why an analysis has no result. -/
structure RunError (ε : Type) where
  /-- The procedure. -/
  proc : Procedure
  /-- What went wrong. -/
  cause : Dataflow.SolveError (ReportError ε)

/-- The wording of a failed analysis. -/
def RunError.message {ε : Type} (cause : ε → String) (e : RunError ε) : String :=
  "analyzing " ++ e.proc.text ++ ": " ++ e.cause.message (·.message cause)

variable {σ ε : Type}

namespace Session

/-- Takes notice of an event. -/
def note (host : Host σ ε) (e : Event) (s : Session σ) : Session σ :=
  { s with client := host.note e s.client }

/-- Reports a leak unless it was reported before. It counts as reported even if that fails. -/
def report (host : Host σ ε) (proc : Procedure) (origin site : Vertex) (s : Session σ) :
    Option (ReportError ε) × Session σ :=
  if (origin, site) ∈ s.reported then (none, s)
  else
    let s : Session σ := { s with reported := s.reported ++ [(origin, site)] }
    let s := s.note host (.escapes origin site)
    let (e, client) := host.report ⟨proc, origin, site⟩ s.client
    (e.map fun e => ⟨origin, site, e⟩, { s with client })

/-- Reports the secrets of the given origins at one site, up to the first failure. -/
def reportAll (host : Host σ ε) (proc : Procedure) (site : Vertex) :
    List Vertex → Session σ → Option (ReportError ε) × Session σ
  | [], s => (none, s)
  | origin :: rest, s =>
    match s.report host proc origin site with
    | (some e, s) => (some e, s)
    | (none, s) => reportAll host proc site rest s

end Session

namespace Analysis

/-- The facts that leave `n` when `entering` enter it; secrets that escape there are reported. -/
def transfer (a : Analysis) (host : Host σ ε) (n : Vertex) (entering : FactSet) (s : Session σ) :
    Except (ReportError ε) FactSet × Session σ :=
  let stmt := a.statement n
  let s := s.note host (.transfer n stmt)
  match s.reportAll host a.proc n (escapingOrigins stmt entering) with
  | (some e, s) => (.error e, s)
  | (none, s) => (.ok (flow a.secret n stmt entering), s)

/-- Sets of facts under union, starting from nothing. -/
def lattice : Dataflow.Lattice FactSet := ⟨.empty, .empty, FactSet.union, FactSet.equal⟩

/-- The propagation as a dataflow problem. -/
def problem (a : Analysis) (host : Host σ ε) :
    Dataflow.Problem FactSet (Session σ) (ReportError ε) where
  lattice := lattice
  transfer := a.transfer host
  onChange n _ new := Session.note host (.changed n new)

/-- The number of reachable statements that define a variable, which is a bound on the number of
facts, for a statement establishes no other fact than the one about its variable. -/
def definitions (a : Analysis) (g : Graph) : Nat :=
  g.reachable.countP fun n => (defined? (a.statement n)).isSome

/-- Propagates secrets through a graph until nothing changes, reporting each leak once. -/
def run (a : Analysis) (host : Host σ ε) (g : Graph) (s : Session σ) :
    Except (RunError ε) (Dataflow.Solution FactSet) × Session σ :=
  let s : Session σ := { s with reported := [] }
  let s := s.note host (.analyzing g.nodes.length)
  let fuel := Dataflow.evaluationBound g (a.definitions g)
  match Dataflow.solve (a.problem host) g fuel s with
  | (.error e, s) => (.error ⟨a.proc, e⟩, s)
  | (.ok solution, s) =>
    (.ok solution, s.note host (.fixpoint solution.evaluations s.reported.length))

end Analysis

end LeakCheck.Propagation
