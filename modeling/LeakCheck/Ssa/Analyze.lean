import LeakCheck.Propagation.Analysis
import LeakCheck.Ssa.Flow

/-!
# The analysis of functions

`analyze` propagates secrets through the graph of a function and reports the leaks.
-/

namespace LeakCheck.Ssa

open Propagation (Host RunError Session)

/-- Why a function was not analysed. -/
inductive AnalyzeError (ε : Type) where
  /-- It has no body. -/
  | noBody (e : NoBody)
  /-- The analysis failed. -/
  | failed (e : RunError ε)

/-- The wording of the failure. -/
def AnalyzeError.message {ε : Type} (cause : ε → String) : AnalyzeError ε → String
  | .noBody e => e.message
  | .failed e => e.message cause

/-- What came of the analysis of a function. -/
structure Outcome where
  /-- The graph. -/
  graph : Graph
  /-- The facts before and after its nodes. -/
  solution : Dataflow.Solution FactSet

/-- The analysis of a function with its graph. -/
def Program.analysis (p : Program) (secret : String) (f : Nat) (g : Graph) :
    Propagation.Analysis :=
  let statements := (p.get f).statements p.types g
  .of (p.procedure f) secret (Function.statementIn statements)

/-- Analyses a function. Leaks and events go to the host. -/
def Program.analyze {σ ε : Type} (p : Program) (secret : String) (host : Host σ ε) (f : Nat)
    (s : σ) : Except (AnalyzeError ε) Outcome × σ :=
  match (p.get f).graph with
  | .error e => (.error (.noBody e), s)
  | .ok g =>
    match (p.analysis secret f g).run host g ⟨[], s⟩ with
    | (.error e, s) => (.error (.failed e), s.client)
    | (.ok solution, s) => (.ok ⟨g, solution⟩, s.client)

section
variable {σ ε : Type} {p : Program} {secret : String} {host : Host σ ε} {f : Nat} {g : Graph}
  {s : σ}

/-- The caller is left as the run on the graph leaves it. -/
theorem Program.analyze_snd (h : (p.get f).graph = .ok g) :
    (p.analyze secret host f s).2 = ((p.analysis secret f g).run host g ⟨[], s⟩).2.client := by
  simp only [analyze, h]
  split
  · next hrun => rw [hrun]
  · next hrun => rw [hrun]

/-- The analysis has a result if the run on the graph has one. -/
theorem Program.analyze_fst (h : (p.get f).graph = .ok g) {solution : Dataflow.Solution FactSet}
    (hrun : ((p.analysis secret f g).run host g ⟨[], s⟩).1 = .ok solution) :
    (p.analyze secret host f s).1 = .ok ⟨g, solution⟩ := by
  simp only [analyze, h]
  split
  · next hfail =>
    rw [hfail] at hrun
    cases hrun
  · next hok =>
    rw [hok] at hrun
    cases hrun
    rfl

end

end LeakCheck.Ssa
