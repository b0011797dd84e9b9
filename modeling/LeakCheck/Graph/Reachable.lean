import LeakCheck.Graph.Basic

/-!
# The numbered view of a graph and reachability

A graph is drawn and searched through a view whose points are the places in the list of vertices.
The view has no loops from a point to itself and no edges that lead outside. A vertex that is
listed more than once stands at the last of its places.
-/

namespace LeakCheck.Graph

/-- The last place of a vertex in a list. -/
def lastPlace? (n : Vertex) : List Vertex → Option Nat
  | [] => none
  | m :: rest =>
    match lastPlace? n rest with
    | some i => some (i + 1)
    | none => if m = n then some 0 else none

/-- The place that a vertex stands at in the view. -/
def place? (g : Graph) (n : Vertex) : Option Nat := lastPlace? n g.nodes

/-- The edges of the view that leave the place `i` of the vertex `n`. -/
def viewEdgesFrom (g : Graph) (n : Vertex) (i : Nat) : List (Nat × Nat) :=
  (g.succs n).filterMap fun s =>
    match g.place? s with
    | some j => if j = i then none else some (i, j)
    | none => none

/-- The edges of the view, each once. -/
def viewEdges (g : Graph) : List (Nat × Nat) :=
  (g.nodes.flatMap fun n =>
    match g.place? n with
    | some i => g.viewEdgesFrom n i
    | none => []).eraseDups

/-- How many vertices stand somewhere in the view. -/
def placeCount (g : Graph) : Nat := g.nodes.eraseDups.length

/-- The points that can be reached from those in `pending` along `edges`, besides those in `seen`.
Every round either skips a point or adds one to `seen` and its successors to `pending`, so the
number of points and edges bounds the rounds. -/
def walk (edges : List (Nat × Nat)) : (fuel : Nat) → (seen pending : List Nat) → List Nat
  | 0, seen, _ => seen
  | _ + 1, seen, [] => seen
  | fuel + 1, seen, i :: pending =>
    if i ∈ seen then walk edges fuel seen pending
    else
      let next := edges.filterMap fun e => if e.1 = i then some e.2 else none
      walk edges fuel (i :: seen) (next ++ pending)

/-- The points of the view that can be reached from the point `start`. -/
def reachablePlaces (g : Graph) (start : Nat) : List Nat :=
  walk g.viewEdges (g.viewEdges.length + g.nodes.length + 2) [] [start]

/-- The vertices that can be reached from the entry, in the order of the list of vertices. -/
def reachable (g : Graph) : List Vertex :=
  match g.place? g.entry with
  | none => []
  | some start =>
    let places := g.reachablePlaces start
    g.nodes.filter fun n => (g.place? n).any (· ∈ places)

end LeakCheck.Graph
