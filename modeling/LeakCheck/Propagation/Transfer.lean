import LeakCheck.Fact.Basic
import LeakCheck.Text.CaseFold

/-!
# The transfer of facts through a statement

A call of the secret operation makes the defined variable a secret, a constant makes it public and
a copy of a secret is a secret. Variables escape through results and through the arguments of
virtual calls.
-/

namespace LeakCheck.Propagation

/-- The variable that a statement defines, provided that it refers to something. -/
def defined? : Statement → Option Var
  | .assign (d :: _) _ => if d.isValid then some d else none
  | _ => none

/-- The values that a statement uses. -/
def uses : Statement → List Value
  | .assign _ uses => uses
  | .invoke call => [call]
  | _ => []

/-- The variables among values. -/
def varsAmong (values : List Value) : List Var :=
  values.filterMap fun
    | .read v => some v
    | _ => none

/-- The variables that a used value lets escape: the arguments of a virtual call. -/
def escapingArguments : Value → List Var
  | .virtualCall _ args => varsAmong args
  | _ => []

/-- The variables that a statement lets escape, in the order they stand in it. -/
def escaping : Statement → List Var
  | .giveBack results => varsAmong results
  | s => (uses s).flatMap escapingArguments

/-- What the scan of a statement's uses has found so far. -/
structure Effect where
  /-- The facts that the statement establishes. -/
  gen : FactSet := .empty
  /-- The facts that it ends. -/
  kill : FactSet := .empty

/-- Ends every fact about a variable. -/
def Effect.clear (e : Effect) (entering : FactSet) (v : Var) : Effect :=
  { e with kill := (entering.about v).foldl FactSet.insert e.kill }

/-- What a value that is used by the statement `n` does to the variable `v` it defines. -/
def Effect.use (secret : String) (n : Vertex) (v : Var) (entering : FactSet) (e : Effect) :
    Value → Effect
  | .staticCall method _ =>
    if Text.equalFold method secret then
      let e := e.clear entering v
      { e with gen := (e.gen.filter (·.var != v)).insert ⟨n, v⟩ }
    else e
  | .constant _ => e.clear entering v
  | .read w => if entering.tainted w then { e with gen := e.gen.insert ⟨n, v⟩ } else e
  | _ => e

/-- What a statement does to the facts. -/
def effect (secret : String) (n : Vertex) (s : Statement) (entering : FactSet) : Effect :=
  match defined? s with
  | some v => (uses s).foldl (Effect.use secret n v entering) {}
  | none => {}

/-- The facts that leave the statement `s` at `n`: those that enter without the ended ones, and the
established ones. Endings are applied after the whole statement has been scanned. -/
def flow (secret : String) (n : Vertex) (s : Statement) (entering : FactSet) : FactSet :=
  let e := effect secret n s entering
  (entering.filter fun f => !e.kill.has f).union e.gen

/-- The origins of the secrets that a statement lets escape, in the order they are reported: by the
variables, and for each variable by the texts of the facts about it. -/
def escapingOrigins (s : Statement) (entering : FactSet) : List Vertex :=
  ((escaping s).filter Var.isValid).flatMap fun v =>
    (Text.sortByText Fact.text (entering.about v)).map Fact.origin

end LeakCheck.Propagation
