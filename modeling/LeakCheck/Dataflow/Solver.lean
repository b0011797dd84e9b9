import LeakCheck.Dataflow.Assignment
import LeakCheck.Graph.Reachable

/-!
# Forward dataflow

A problem consists of the operations on flow values, the transfer of a value through a vertex and
what to do when a value changes. `solve` evaluates the reachable vertices in the order of a queue
until nothing changes any more. Transfer and change handler work on a state of the client, which
`solve` hands back whether it succeeds or not.

The rounds are bounded by `fuel`, the number of evaluations allowed; `SolveError.exhausted` says
that they did not suffice.
-/

namespace LeakCheck.Dataflow

/-- The operations on flow values. -/
structure Lattice (φ : Type) where
  /-- The first value of every vertex. -/
  bottom : φ
  /-- The value that enters the procedure. -/
  entry : φ
  /-- Joins two values. -/
  merge : φ → φ → φ
  /-- Whether two values are the same. -/
  equal : φ → φ → Bool

/-- A forward problem over flow values `φ`, for a client with states `σ` and errors `ε`. -/
structure Problem (φ σ ε : Type) where
  /-- The operations on flow values. -/
  lattice : Lattice φ
  /-- The value that leaves a vertex, from the one that enters it. -/
  transfer : Vertex → φ → σ → Except ε φ × σ
  /-- Called with the old and the new value when the one leaving a vertex changes. -/
  onChange : Vertex → φ → φ → σ → σ

/-- The values entering and leaving every vertex. -/
structure Solution (φ : Type) where
  /-- The values entering the vertices. -/
  before : Assignment φ
  /-- The values leaving the vertices. -/
  after : Assignment φ
  /-- The number of transfers made. -/
  evaluations : Nat

/-- Why there is no solution. -/
inductive SolveError (ε : Type) where
  /-- The graph is malformed. -/
  | invalid (defect : Graph.Defect)
  /-- The transfer through a vertex failed. -/
  | transfer (n : Vertex) (cause : ε)
  /-- The allowed evaluations did not suffice. -/
  | exhausted
  deriving Repr, Inhabited

/-- The wording of a failure, given that of the client's errors. -/
def SolveError.message {ε : Type} (cause : ε → String) : SolveError ε → String
  | .invalid defect => defect.message
  | .transfer n e => "transfer at " ++ n.text ++ ": " ++ cause e
  | .exhausted => "evaluation limit reached"

/-- Adds a vertex to the end of a queue unless it is waiting already. -/
def push (queue : List Vertex) (n : Vertex) : List Vertex :=
  if n ∈ queue then queue else queue ++ [n]

/-- Adds vertices to the end of a queue, one after the other. -/
def pushAll (queue : List Vertex) (ns : List Vertex) : List Vertex := ns.foldl push queue

/-- How far a solver has come. -/
structure Progress (φ σ : Type) where
  /-- The values so far. -/
  solution : Solution φ
  /-- The vertices that wait for their evaluation. -/
  queue : List Vertex
  /-- The client's state. -/
  client : σ

variable {φ σ ε : Type}

/-- The value that enters a vertex when those in `after` leave its predecessors. -/
def inflow (p : Problem φ σ ε) (g : Graph) (after : Assignment φ) (n : Vertex) : φ :=
  let start :=
    if n = g.entry then p.lattice.merge p.lattice.bottom p.lattice.entry else p.lattice.bottom
  (g.preds n).foldl (fun acc m => p.lattice.merge acc (after.get m)) start

/-- Computes the values of the vertex `n` anew and stores them. Gives the vertices that have to be
evaluated because of it: its successors, if the value that leaves it changed. -/
def update (p : Problem φ σ ε) (g : Graph) (n : Vertex) (solution : Solution φ) (client : σ) :
    Except (SolveError ε) (Solution φ × List Vertex) × σ :=
  let entering := inflow p g solution.after n
  match p.transfer n entering client with
  | (.error e, client) => (.error (.transfer n e), client)
  | (.ok leaving, client) =>
    let old := solution.after.get n
    let before := solution.before.set n entering
    let evaluations := solution.evaluations + 1
    if p.lattice.equal leaving old then (.ok (⟨before, solution.after, evaluations⟩, []), client)
    else
      (.ok (⟨before, solution.after.set n leaving, evaluations⟩, g.succs n),
        p.onChange n old leaving client)

/-- Evaluates the vertex `n`, which has left the queue, and queues the vertices that have to be
evaluated because of it. -/
def evaluate (p : Problem φ σ ε) (g : Graph) (n : Vertex) (s : Progress φ σ) :
    Except (SolveError ε) (Progress φ σ) × σ :=
  match update p g n s.solution s.client with
  | (.error e, client) => (.error e, client)
  | (.ok (solution, next), client) => (.ok ⟨solution, pushAll s.queue next, client⟩, client)

/-- Evaluates queued vertices until none is left. -/
def iterate (p : Problem φ σ ε) (g : Graph) :
    (fuel : Nat) → Progress φ σ → Except (SolveError ε) (Solution φ) × σ
  | fuel, s =>
    match s.queue, fuel with
    | [], _ => (.ok s.solution, s.client)
    | _ :: _, 0 => (.error .exhausted, s.client)
    | n :: rest, fuel + 1 =>
      match evaluate p g n { s with queue := rest } with
      | (.error e, client) => (.error e, client)
      | (.ok s, _) => iterate p g fuel s

/-- The state before the first evaluation: every value is the least one and every reachable vertex
waits. -/
def start (p : Problem φ σ ε) (g : Graph) (client : σ) : Progress φ σ :=
  ⟨⟨.const p.lattice.bottom, .const p.lattice.bottom, 0⟩, pushAll [] g.reachable, client⟩

/-- Solves a problem on a graph with at most `fuel` evaluations. -/
def solve (p : Problem φ σ ε) (g : Graph) (fuel : Nat) (client : σ) :
    Except (SolveError ε) (Solution φ) × σ :=
  match g.defect? with
  | some defect => (.error (.invalid defect), client)
  | none => iterate p g fuel (start p g client)

/-- The number of edges that leave reachable vertices, repeated ones counted. -/
def reachableEdges (g : Graph) : Nat := (g.reachable.flatMap g.succs).length

/-- A bound on the evaluations when no vertex's value changes more than `height` times: each
reachable vertex is evaluated once, and once more for every change of a predecessor. -/
def evaluationBound (g : Graph) (height : Nat) : Nat :=
  g.reachable.length + height * reachableEdges g

end LeakCheck.Dataflow
