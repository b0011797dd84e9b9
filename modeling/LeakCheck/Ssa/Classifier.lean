import LeakCheck.Ssa.Spread
import LeakCheck.Statement

/-!
# The statements of instructions

A classifier says which statement an instruction is. All accesses to a field of a struct are to one
variable, which is shown under the name of the type that the classifier first met it in.
-/

namespace LeakCheck.Ssa

/-- What a classifier has met. -/
structure Classifier where
  /-- The fields with the names of the types they were first met in. -/
  owners : List (Nat × String) := []
  deriving DecidableEq, Repr, Inhabited

namespace Classifier

/-- The owner of a field, which is `owner` if it is met for the first time. -/
def meet (c : Classifier) (field : Nat) (owner : String) : String × Classifier :=
  match c.owners.lookup field with
  | some known => (known, c)
  | none => (owner, ⟨c.owners ++ [(field, owner)]⟩)

/-- The variable of a field; none if the type has no such field. -/
def fieldVar (ts : Types) (c : Classifier) (type index : Nat) : Var × Classifier :=
  match ts.field? type index with
  | none => ({}, c)
  | some field =>
    let (owner, c) := c.meet field (ts.ownerName type)
    (.ofField (.field field owner (ts.fields[field]?.getD "")), c)

end Classifier

/-- The variable that is the value with a number. -/
def Function.localVar (f : Function) (v : Nat) : Var := .inFrame (.value v (f.value v).name)

/-- A value as an operand. -/
def Function.operand (f : Function) (v : Nat) : Value :=
  match (f.value v).kind with
  | .constant text => .constant (text.getD "nil")
  | _ => .read (f.localVar v)

/-- The statement that defines the value of an instruction. -/
def Function.define (f : Function) (i : Instr) (uses : List Value) : Statement :=
  match i.result with
  | some v => .assign [f.localVar v] uses
  | none => .other

/-- The value of a call. Methods of interfaces and functions that are values are called
virtually. -/
def Function.callValue (f : Function) (c : Call) : Value :=
  let args := (f.arguments c).map f.operand
  match c.callee with
  | .method name => .virtualCall name args
  | callee =>
    if (f.value c.target).kind = .builtin then .unknown (f.value c.target).name
    else
      match callee with
      | .known name origin => .staticCall (origin.getD name) args
      | _ => .virtualCall (f.value c.target).name args

namespace Classifier

/-- The variable under an address: one that the function made, a field or a variable of a package.
Other addresses are not followed. -/
def addressed? (ts : Types) (f : Function) (c : Classifier) (address : Nat) :
    Option Var × Classifier :=
  if (f.value address).kind = .global then
    (some (.ofField (.value address (f.value address).name)), c)
  else
    match (f.definition? address).map Instr.operation with
    | some (.alloc ..) => (some (f.localVar address), c)
    | some (.fieldAddress type index) =>
      let (v, c) := c.fieldVar ts type index
      (if v.isValid then some v else none, c)
    | _ => (none, c)

/-- The statement of an instruction. -/
def classify (ts : Types) (f : Function) (c : Classifier) (i : Instr) : Statement × Classifier :=
  match i.operation with
  | .call call =>
    let value := f.callValue call
    (if call.results = 0 then .invoke value else f.define i [value], c)
  | .store address value =>
    match c.addressed? ts f address with
    | (some v, c) => (.assign [v] [f.operand value], c)
    | (none, c) => (.other, c)
  | .unary "*" operand =>
    match c.addressed? ts f operand with
    | (some v, c) => (f.define i [.read v], c)
    | (none, c) => (f.define i [.unknown "load"], c)
  | .unary operator _ => (f.define i [.unknown operator], c)
  | .field type index =>
    let (v, c) := c.fieldVar ts type index
    (f.define i [.read v], c)
  | .phi edges => (f.define i (edges.map f.operand), c)
  | .passOn value => (f.define i [f.operand value], c)
  | .giveBack results => (.giveBack (results.map f.operand), c)
  | .binary operator => (f.define i [.unknown operator], c)
  | .convert => (f.define i [.unknown "convert"], c)
  | .typeAssert => (f.define i [.unknown "typeassert"], c)
  | .alloc .. => (f.define i [.unknown "alloc"], c)
  | _ => (f.define i [.unknown ""], c)

/-- The statements of instructions that are met one after the other. -/
def classifyAll (ts : Types) (f : Function) (c : Classifier) :
    List Instr → List Statement × Classifier
  | [] => ([], c)
  | i :: rest =>
    let (s, c) := c.classify ts f i
    let (statements, c) := c.classifyAll ts f rest
    (s :: statements, c)

end Classifier

end LeakCheck.Ssa
