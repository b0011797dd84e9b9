import LeakCheck.Node
import LeakCheck.Suppression.Comment

/-!
# Suppressed statements

A suppressing comment belongs to a node of the syntax. A position is suppressed if the comment
belongs to the call there, to the name of what is called, or to a node between the position and its
statement.
-/

namespace LeakCheck.Suppression

/-- A node of the syntax of a program. -/
structure SyntaxNode where
  /-- The name of its form. -/
  form : String
  /-- Where it begins. -/
  pos : Pos
  /-- Where it ends. -/
  stop : Pos
  /-- Whether it is a statement. -/
  isStatement : Bool := false
  /-- What is called, if it is a call. -/
  callee : Option Nat := none
  /-- The name that is selected, if it selects one. -/
  selected : Option Nat := none
  deriving DecidableEq, Repr, Inhabited

/-- A file. Nodes are given by their numbers. -/
structure SourceFile where
  /-- Where it begins. -/
  pos : Pos
  /-- Where it ends. -/
  stop : Pos
  /-- The nodes that groups of comments belong to. -/
  comments : List (Nat × List (List String)) := []
  /-- The nodes around positions, the innermost first. -/
  paths : List (Pos × List Nat) := []
  deriving Repr, Inhabited

/-- The source of a package. -/
structure Source where
  /-- The files. -/
  files : List SourceFile := []
  /-- The nodes by their numbers. -/
  nodes : Array SyntaxNode := #[]
  deriving Repr, Inhabited

namespace Source

/-- The node with a number. -/
def get (s : Source) (n : Nat) : SyntaxNode := s.nodes[n]?.getD ⟨"", 0, 0, false, none, none⟩

/-- The nodes that a suppressing comment belongs to. -/
def suppressed (s : Source) : List Nat :=
  (s.files.flatMap fun f =>
    (f.comments.filter fun c => c.2.any isSuppressing).map (·.1)).eraseDups

/-- Whether a comment belongs to what is called by the innermost node of a path, if that is a call,
or to the name that is selected there. -/
def isCalleeSuppressed (s : Source) (marked : List Nat) (path : List Nat) : Bool :=
  match path.head?.bind fun n => (s.get n).callee with
  | none => false
  | some callee =>
    marked.contains callee || (s.get callee).selected.any marked.contains

/-- Whether a comment belongs to one of the nodes up to the first statement. -/
def isStatementSuppressed (s : Source) (marked : List Nat) : List Nat → Bool
  | [] => false
  | n :: rest =>
    marked.contains n || (!(s.get n).isStatement && s.isStatementSuppressed marked rest)

/-- Whether a position with the nodes around it is suppressed. The outermost node does not
count. -/
def isPathSuppressed (s : Source) (marked : List Nat) (path : List Nat) : Bool :=
  2 ≤ path.length &&
    (s.isCalleeSuppressed marked path || s.isStatementSuppressed marked path.dropLast)

/-- The first file that a position is in. -/
def fileAt? (s : Source) (pos : Pos) : Option SourceFile :=
  s.files.find? fun f => f.pos ≤ pos && pos ≤ f.stop

/-- Whether a position is suppressed when comments belong to the nodes `marked`. -/
def isSuppressedAt (s : Source) (marked : List Nat) (pos : Pos) : Bool :=
  pos.isValid &&
    match s.fileAt? pos with
    | none => false
    | some f => s.isPathSuppressed marked ((f.paths.lookup pos).getD [])

end Source

end LeakCheck.Suppression
