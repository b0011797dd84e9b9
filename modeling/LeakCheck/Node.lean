import LeakCheck.Text.Quoted

/-!
# Nodes

A node is a statement of a procedure as the analysis meets it: an identity, the text it is shown
by and its position. Graphs and facts hold vertices, a vertex being a node or the absent node that
a malformed graph may mention.
-/

namespace LeakCheck

/-- A position in the source; zero is no position. -/
abbrev Pos := Int

/-- Whether a position is one at all. -/
def Pos.isValid (pos : Pos) : Bool := pos != 0

/-- A statement of a procedure. -/
structure Node where
  /-- Tells the nodes of one graph apart. -/
  id : Nat
  /-- How the node is shown. -/
  text : String
  /-- Where the statement stands. -/
  pos : Pos := 0
  deriving DecidableEq, Repr, Inhabited

/-- A node, or the absent node. -/
abbrev Vertex := Option Node

/-- Comparing vertices decides their equality. -/
instance : LawfulBEq Vertex := inferInstance

/-- Comparing edges decides their equality. -/
instance : LawfulBEq (Vertex × Vertex) := inferInstance

/-- How a vertex is shown. -/
def Vertex.text : Vertex → String
  | some n => n.text
  | none => "<nil>"

/-- How a vertex is shown between quotes. -/
def Vertex.quoted : Vertex → String
  | some n => Text.quote n.text
  | none => "%!q(<nil>)"

/-- Where a vertex stands; the absent node stands nowhere. -/
def Vertex.pos : Vertex → Pos
  | some n => n.pos
  | none => 0

/-- A procedure under analysis. -/
structure Procedure where
  /-- Tells the procedures of one program apart. -/
  id : Nat
  /-- How the procedure is shown. -/
  text : String
  /-- Where the procedure is declared. -/
  pos : Pos := 0
  deriving DecidableEq, Repr, Inhabited

end LeakCheck
