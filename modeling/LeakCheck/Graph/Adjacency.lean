import LeakCheck.Dataflow.Assignment
import LeakCheck.Graph.Basic

/-!
# Graphs built edge by edge

An adjacency holds its vertices in the order of their first mention. Its edges stand in two tables,
by the vertices they leave and by those they lead to; an edge that the first table has already is
added to neither.
-/

namespace LeakCheck

/-- A graph under construction. -/
structure Adjacency where
  /-- The vertex that execution starts at. -/
  entry : Vertex
  /-- The vertices in the order of their first mention. -/
  nodes : List Vertex
  /-- The vertices that each vertex has an edge to, in the order the edges were added. -/
  outgoing : Assignment (List Vertex)
  /-- The vertices that have an edge to each vertex, in the order the edges were added. -/
  incoming : Assignment (List Vertex)

namespace Adjacency

/-- The graph that consists of its entry. -/
def ofEntry (entry : Vertex) : Adjacency := ⟨entry, [entry], .const [], .const []⟩

/-- Adds a vertex unless it is there already. -/
def addNode (a : Adjacency) (n : Vertex) : Adjacency :=
  if n ∈ a.nodes then a else { a with nodes := a.nodes ++ [n] }

/-- The vertices that `n` has an edge to, in the order the edges were added. -/
def succs (a : Adjacency) (n : Vertex) : List Vertex := a.outgoing.get n

/-- The vertices that have an edge to `n`, in the order the edges were added. -/
def preds (a : Adjacency) (n : Vertex) : List Vertex := a.incoming.get n

/-- Enters an edge into both tables. -/
def link (a : Adjacency) (source target : Vertex) : Adjacency :=
  { a with
    outgoing := a.outgoing.set source (a.succs source ++ [target])
    incoming := a.incoming.set target (a.preds target ++ [source]) }

/-- Adds an edge and its ends unless they are there already. -/
def addEdge (a : Adjacency) (source target : Vertex) : Adjacency :=
  let a := (a.addNode source).addNode target
  if target ∈ a.succs source then a else a.link source target

/-- The graph as built so far. -/
def toGraph (a : Adjacency) : Graph := ⟨a.nodes, a.entry, a.succs, a.preds⟩

/-- One step of building a graph. -/
inductive Change where
  /-- Mentions a vertex. -/
  | node (n : Vertex)
  /-- Mentions an edge. -/
  | edge (source target : Vertex)
  deriving DecidableEq, Repr, Inhabited

/-- Carries out one step. -/
def apply (a : Adjacency) : Change → Adjacency
  | .node n => a.addNode n
  | .edge source target => a.addEdge source target

/-- The states before the first step and after each of them. -/
def states (a : Adjacency) : List Change → List Adjacency
  | [] => [a]
  | c :: rest => a :: states (a.apply c) rest

end Adjacency

end LeakCheck
