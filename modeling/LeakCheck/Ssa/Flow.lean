import LeakCheck.Graph.Adjacency
import LeakCheck.Graph.Reachable
import LeakCheck.Ssa.Classifier

/-!
# The control flow of functions

The graph of a function has a node for every instruction. Instructions of a block follow each other,
the last one is followed by the first ones of the blocks that come next, and if failures are
handled, those that may fail are followed by the handler.
-/

namespace LeakCheck.Ssa

/-- The refusal of a function that has no instructions to start with. -/
structure NoBody where
  /-- How the function is shown. -/
  function : String
  deriving DecidableEq, Repr, Inhabited

/-- The wording of the refusal. -/
def NoBody.message (e : NoBody) : String := e.function ++ ": function has no body"

namespace Function

/-- The node of an instruction with its number. -/
def node (f : Function) (number : Nat) (i : Instr) : Node := ⟨number, f.instrText i, i.pos⟩

/-- The nodes of blocks, block by block; the first has the number `start`. -/
def rowsFrom (f : Function) (start : Nat) : List Block → List (List Vertex)
  | [] => []
  | b :: rest =>
    (b.instrs.zipIdx start).map (fun (i, k) => some (f.node k i)) ::
      f.rowsFrom (start + b.instrs.length) rest

/-- The nodes of a function, block by block. -/
def rows (f : Function) : List (List Vertex) := f.rowsFrom 0 f.blocks

/-- The edges inside of a block. -/
def innerEdges : List Vertex → List Adjacency.Change
  | [] => []
  | n :: rest => .node n :: List.zipWith .edge (n :: rest) rest

/-- The first node of a block. -/
def firstOf (rows : List (List Vertex)) (b : Nat) : Option Vertex := (rows[b]?).bind (·.head?)

/-- The edges from the last node of a block to the first nodes of those that come next. -/
def outerEdges (rows : List (List Vertex)) (b : Block) (row : List Vertex) :
    List Adjacency.Change :=
  match row.getLast? with
  | none => []
  | some last => b.succs.filterMap fun s => (firstOf rows s).map (.edge last)

/-- The edges from the nodes that may fail to the handler. -/
def failureEdges (f : Function) (rows : List (List Vertex)) : List Adjacency.Change :=
  match f.recover.bind (firstOf rows) with
  | none => []
  | some handler =>
    (f.instrs.zip rows.flatten).filterMap fun (i, n) =>
      if i.mayFail then some (.edge n handler) else none

/-- The steps that build the graph of a function. -/
def changes (f : Function) : List Adjacency.Change :=
  f.rows.flatMap innerEdges ++
    (f.blocks.zip f.rows).flatMap (fun (b, row) => outerEdges f.rows b row) ++
    f.failureEdges f.rows

/-- The graph of a function. -/
def graph (f : Function) : Except NoBody Graph :=
  match firstOf f.rows 0 with
  | none => .error ⟨f.text⟩
  | some entry => .ok (f.changes.foldl Adjacency.apply (.ofEntry entry)).toGraph

/-- The instruction of a node. -/
def instrAt? (f : Function) (n : Vertex) : Option Instr := n.bind fun n => f.instrs[n.id]?

/-- The classifier that has met the instructions that can be reached, in their order. -/
def classifier (ts : Types) (f : Function) (g : Graph) : Classifier :=
  (Classifier.classifyAll ts f {} (g.reachable.filterMap f.instrAt?)).2

/-- The statements of all instructions. -/
def statements (ts : Types) (f : Function) (g : Graph) : Array Statement :=
  let c := f.classifier ts g
  (f.instrs.map fun i => (c.classify ts f i).1).toArray

/-- The statement of a node. -/
def statementIn (statements : Array Statement) (n : Vertex) : Statement :=
  (n.bind fun n => statements[n.id]?).getD .other

end Function

end LeakCheck.Ssa
