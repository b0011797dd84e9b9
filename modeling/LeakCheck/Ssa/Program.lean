import LeakCheck.Node
import LeakCheck.Ssa.Types

/-!
# Programs

A program in static single assignment form. A function consists of blocks of instructions; an
instruction may define a value, and uses values by their numbers.
-/

namespace LeakCheck.Ssa

/-- What a value is. -/
inductive ValueKind where
  /-- A constant with its text; none for the constant that has no value. -/
  | constant (text : Option String)
  /-- A function of the language. -/
  | builtin
  /-- A variable of a package. -/
  | global
  /-- Any other value. -/
  | other
  deriving DecidableEq, Repr, Inhabited

/-- A value of a function. -/
structure ValueInfo where
  /-- Its name. -/
  name : String
  /-- What it is. -/
  kind : ValueKind := .other
  deriving DecidableEq, Repr, Inhabited

/-- What a call calls. -/
inductive Callee where
  /-- A method of an interface. -/
  | method (name : String)
  /-- A known function, and the generic function it is an instance of. -/
  | known (name : String) (origin : Option String)
  /-- Whatever function a value is. -/
  | dynamic
  deriving DecidableEq, Repr, Inhabited

/-- A call. -/
structure Call where
  /-- The number of results. -/
  results : Nat
  /-- Whether the last argument is a slice of any number of arguments. -/
  variadic : Bool
  /-- The arguments, without the receiver of a method of an interface. -/
  args : List Nat
  /-- The value that is called. -/
  target : Nat
  /-- What that is. -/
  callee : Callee
  deriving DecidableEq, Repr, Inhabited

/-- What an instruction does, as far as the analysis asks for it. -/
inductive Operation where
  | call (c : Call)
  /-- Stores a value under an address. -/
  | store (address value : Nat)
  /-- An operator with one operand; `*` loads from an address. -/
  | unary (operator : String) (operand : Nat)
  /-- An operator with two operands. -/
  | binary (operator : String)
  /-- A field of a struct of a type. -/
  | field (type index : Nat)
  /-- The address of a field of a struct that a type points to. -/
  | fieldAddress (type index : Nat)
  /-- One of several values, by the way the block was reached. -/
  | phi (edges : List Nat)
  /-- The same value as another type, or a part of it. -/
  | passOn (value : Nat)
  /-- A part of an array. -/
  | slice (value : Nat)
  /-- Hands results to the caller. -/
  | giveBack (results : List Nat)
  /-- Makes a variable; the instructions that use it are known. -/
  | alloc (comment : String) (uses : List Nat)
  /-- The address of an element; the instructions that use it are known. -/
  | elementAddress (uses : List Nat)
  | convert
  | typeAssert
  | panic
  | other
  deriving DecidableEq, Repr, Inhabited

/-- Whether an operation computes a value. -/
def Operation.computes : Operation → Bool
  | .store .. | .giveBack _ | .panic | .other => false
  | _ => true

/-- An instruction. -/
structure Instr where
  /-- The name of its form. -/
  form : String
  /-- How it is shown. -/
  text : String
  /-- Where it stands. -/
  pos : Pos := 0
  /-- The value it defines. -/
  result : Option Nat := none
  /-- What it does. -/
  operation : Operation := .other
  /-- It defines a value if its operation computes one. -/
  defines : operation.computes = true → result.isSome = true := by decide
  deriving DecidableEq, Repr

instance : Inhabited Instr := ⟨{ form := "", text := "" }⟩

/-- Whether control may leave an instruction for the handler of failures. -/
def Instr.mayFail (i : Instr) : Bool :=
  match i.operation with
  | .call _ => true
  | .panic => true
  | _ => false

/-- A sequence of instructions that is entered at its beginning. -/
structure Block where
  /-- What it is for. -/
  comment : String := ""
  /-- The instructions. -/
  instrs : List Instr := []
  /-- The blocks that may follow. -/
  succs : List Nat := []
  deriving DecidableEq, Repr, Inhabited

/-- A function. -/
structure Function where
  /-- How it is shown. -/
  text : String
  /-- Its name. -/
  name : String
  /-- Where it stands. -/
  pos : Pos := 0
  /-- What it was made for, if it does not stand in the source. -/
  synthetic : String := ""
  /-- The number of its type parameters. -/
  typeParams : Nat := 0
  /-- The function it is declared in. -/
  parent : Option Nat := none
  /-- The generic function it is an instance of. -/
  origin : Option Nat := none
  /-- The path of its package. -/
  path : Option String := none
  /-- The type of its receiver. -/
  receiver : Option Nat := none
  /-- The block that failures lead to. -/
  recover : Option Nat := none
  /-- The blocks; a function without any has no body. -/
  blocks : List Block := []
  /-- The values. -/
  values : Array ValueInfo := #[]
  deriving Repr, Inhabited

namespace Function

/-- The instructions of all blocks. Their numbers are their places in this list. -/
def instrs (f : Function) : List Instr := f.blocks.flatMap (·.instrs)

/-- The value with a number. -/
def value (f : Function) (v : Nat) : ValueInfo := f.values[v]?.getD { name := "" }

/-- The instruction that defines a value. -/
def definition? (f : Function) (v : Nat) : Option Instr :=
  f.instrs.find? (·.result = some v)

/-- How an instruction is shown: with the name of the value it defines, if that has one. -/
def instrText (f : Function) (i : Instr) : String :=
  match i.result with
  | some v => if (f.value v).name = "" then i.text else (f.value v).name ++ " = " ++ i.text
  | none => i.text

end Function

/-- A program. -/
structure Program where
  /-- The types. -/
  types : Types := {}
  /-- The functions by their numbers. -/
  functions : Array Function := #[]
  /-- The places of positions as texts. -/
  places : List (Pos × String) := []
  deriving Repr, Inhabited

namespace Program

/-- The function with a number. -/
def get (p : Program) (f : Nat) : Function := p.functions[f]?.getD { text := "", name := "" }

/-- A position as text. -/
def placeText (p : Program) (pos : Pos) : String := (p.places.lookup pos).getD "-"

/-- The function that a function is declared in, at most so many steps outwards. -/
def outermost (p : Program) : (fuel : Nat) → Nat → Nat
  | 0, f => f
  | fuel + 1, f =>
    match (p.get f).parent with
    | some parent => p.outermost fuel parent
    | none => f

/-- The function as it stands in the source: the outermost function that a function is declared in,
and of an instance the generic function. -/
def source (p : Program) (f : Nat) : Nat :=
  let f := p.outermost p.functions.size f
  (p.get f).origin.getD f

/-- The path of the package, the name of the receiver's type and the name of a function, as they
stand in the source. -/
def decompose (p : Program) (f : Nat) : String × String × String :=
  let s := p.get (p.source f)
  let receiver :=
    match s.receiver with
    | some t => (p.types.decompose (p.types.dereference t)).2
    | none => ""
  (s.path.getD "", receiver, s.name)

/-- A function as a procedure under analysis. -/
def procedure (p : Program) (f : Nat) : Procedure := ⟨f, (p.get f).text, (p.get f).pos⟩

end Program

end LeakCheck.Ssa
