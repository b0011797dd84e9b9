import LeakCheck.Node

/-!
# Control-flow graphs

A graph of one procedure lists its vertices and gives the successors and predecessors of each.
Nothing is assumed about a graph: `Graph.defect?` finds the first way in which it is malformed.
-/

namespace LeakCheck

/-- The control-flow graph of one procedure. -/
structure Graph where
  /-- Every vertex of the graph, in a fixed order. -/
  nodes : List Vertex
  /-- The vertex that execution starts at. -/
  entry : Vertex
  /-- The vertices that a vertex has an edge to. -/
  succs : Vertex → List Vertex
  /-- The vertices that have an edge to a vertex. -/
  preds : Vertex → List Vertex

namespace Graph

/-- What makes a graph malformed. -/
inductive Defect where
  /-- The graph lists no vertex. -/
  | empty
  /-- A vertex is listed more than once. -/
  | listedTwice (n : Vertex)
  /-- The entry is absent or not listed. -/
  | entryUnlisted (entry : Vertex)
  /-- A successor is not listed. -/
  | succUnlisted (s n : Vertex)
  /-- A successor does not have the vertex among its predecessors. -/
  | succOneWay (s n : Vertex)
  /-- A predecessor is not listed. -/
  | predUnlisted (p n : Vertex)
  /-- A predecessor does not have the vertex among its successors. -/
  | predOneWay (p n : Vertex)
  deriving DecidableEq, Repr, Inhabited

/-- The wording of a defect. -/
def Defect.message (d : Defect) : String :=
  "invalid control-flow graph: " ++
    match d with
    | .empty => "graph has no nodes"
    | .listedTwice n => "node " ++ n.quoted ++ " is listed twice"
    | .entryUnlisted entry => "entry " ++ entry.text ++ " is not a node of the graph"
    | .succUnlisted s n =>
      "successor " ++ s.quoted ++ " of " ++ n.quoted ++ " is not a node of the graph"
    | .succOneWay s n =>
      s.quoted ++ " is a successor of " ++ n.quoted ++ " but not the other way around"
    | .predUnlisted p n =>
      "predecessor " ++ p.quoted ++ " of " ++ n.quoted ++ " is not a node of the graph"
    | .predOneWay p n =>
      p.quoted ++ " is a predecessor of " ++ n.quoted ++ " but not the other way around"

/-- The first vertex that occurs a second time. -/
def firstRepeated? (seen : List Vertex) : List Vertex → Option Vertex
  | [] => none
  | n :: rest => if n ∈ seen then some n else firstRepeated? (n :: seen) rest

/-- What is wrong with the edge from `n` to its successor `s`. -/
def succDefect? (g : Graph) (n s : Vertex) : Option Defect :=
  if s ∉ g.nodes then some (.succUnlisted s n)
  else if n ∉ g.preds s then some (.succOneWay s n)
  else none

/-- What is wrong with the edge to `n` from its predecessor `p`. -/
def predDefect? (g : Graph) (n p : Vertex) : Option Defect :=
  if p ∉ g.nodes then some (.predUnlisted p n)
  else if n ∉ g.succs p then some (.predOneWay p n)
  else none

/-- The first thing wrong with the edges of `n`. -/
def edgeDefect? (g : Graph) (n : Vertex) : Option Defect :=
  ((g.succs n).findSome? (g.succDefect? n)).or ((g.preds n).findSome? (g.predDefect? n))

/-- The first thing wrong with a graph, if anything is: it lists no vertex, it lists one twice, its
entry is not one of them, or the edges of some vertex lead outside or disagree. -/
def defect? (g : Graph) : Option Defect :=
  if g.nodes = [] then some .empty
  else
    match firstRepeated? [] g.nodes with
    | some n => some (.listedTwice n)
    | none =>
      if g.entry = none ∨ g.entry ∉ g.nodes then some (.entryUnlisted g.entry)
      else g.nodes.findSome? g.edgeDefect?

end Graph

end LeakCheck
