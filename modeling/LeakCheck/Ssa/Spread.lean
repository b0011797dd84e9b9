import LeakCheck.Ssa.Program

/-!
# Arguments of variadic calls

The arguments of a variadic call are stored into a new array, and a slice of it is passed. `Spread`
finds the values that were stored.
-/

namespace LeakCheck.Ssa.Function

/-- The value that an instruction stores under an address. -/
def storedAt? (address : Nat) (i : Instr) : Option Nat :=
  match i.operation with
  | .store a v => if a = address then some v else none
  | _ => none

/-- The values that are stored through the address of an element. -/
def storedThrough (f : Function) (i : Instr) : List Nat :=
  match i.operation, i.result with
  | .elementAddress uses, some address =>
    uses.filterMap fun u => (f.instrs[u]?).bind (storedAt? address)
  | _, _ => []

/-- The users of the array that a value is a slice of, if that array was made for the arguments of a
call or for a literal. -/
def spreadArray? (f : Function) (v : Nat) : Option (List Nat) := do
  let .slice array := (← f.definition? v).operation | none
  let .alloc comment uses := (← f.definition? array).operation | none
  if comment = "varargs" ∨ comment = "slicelit" then some uses else none

/-- The values stored into the slice that a variadic call passes, in the order of the arguments;
none if it passes no such slice. -/
def members? (f : Function) (c : Call) : Option (List Nat) := do
  if !c.variadic then none
  let uses ← f.spreadArray? (← c.args.getLast?)
  return uses.flatMap fun u => ((f.instrs[u]?).map f.storedThrough).getD []

/-- The arguments of a call, with the slice of a variadic call replaced by what is in it. -/
def arguments (f : Function) (c : Call) : List Nat :=
  match f.members? c with
  | some members => c.args.dropLast ++ members
  | none => c.args

end LeakCheck.Ssa.Function
