import LeakCheck.Fact.Basic
import LeakCheck.Log.Record

/-!
# Events of the propagation

What the propagation tells a logger while it works.
-/

namespace LeakCheck.Propagation

/-- Something that happens during the propagation. -/
inductive Event where
  /-- The analysis of a procedure with this many statements begins. -/
  | analyzing (statements : Nat)
  /-- Facts are transferred through a statement. -/
  | transfer (n : Vertex) (shape : Statement)
  /-- A secret is seen to escape for the first time. -/
  | escapes (origin site : Vertex)
  /-- The facts that leave a statement have changed. -/
  | changed (n : Vertex) (facts : FactSet)
  /-- Nothing changes any more. -/
  | fixpoint (evaluations leaks : Nat)

/-- The value of a field that shows a vertex. -/
def vertexField : Vertex → Log.Field
  | some n => .text n.text
  | none => .absent

/-- The record of an event in the analysis of `proc`. -/
def Event.record (proc : Procedure) (e : Event) : Log.Record :=
  let procedure := ("procedure", Log.Field.text proc.text)
  match e with
  | .analyzing statements =>
    ⟨.debug, "analyzing procedure", [procedure, ("statements", .number statements)]⟩
  | .transfer n shape =>
    ⟨.trace, "transfer", [procedure, ("statement", vertexField n), ("shape", .text shape.text)]⟩
  | .escapes origin site =>
    ⟨.debug, "secret escapes",
      [procedure, ("origin", vertexField origin), ("site", vertexField site)]⟩
  | .changed n facts =>
    ⟨.trace, "facts changed",
      [procedure, ("statement", vertexField n), ("facts", .text facts.text)]⟩
  | .fixpoint evaluations leaks =>
    ⟨.debug, "fixpoint reached",
      [procedure, ("evaluations", .number evaluations), ("leaks", .number leaks)]⟩

end LeakCheck.Propagation
