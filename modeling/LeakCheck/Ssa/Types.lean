/-!
# Types

The types that the code of a program mentions, as far as the analysis asks for them: their text, the
name they are declared under, what they point to and their fields.
-/

namespace LeakCheck.Ssa

/-- A name that is declared in a package, or outside of all packages. -/
structure Declaration where
  /-- The path of the package. -/
  path : Option String
  /-- The name. -/
  name : String
  deriving DecidableEq, Repr, Inhabited

/-- A type. Other types and fields are given by their numbers. -/
structure TypeInfo where
  /-- How it is shown. -/
  text : String
  /-- The name it is declared under. -/
  declared : Option Declaration := none
  /-- What it points to, if it is a pointer. -/
  element : Option Nat := none
  /-- Its fields, if it is a struct. -/
  fields : Option (List Nat) := none
  deriving DecidableEq, Repr, Inhabited

/-- The types and fields of a program. -/
structure Types where
  /-- The types by their numbers. -/
  types : Array TypeInfo := #[]
  /-- The names of the fields by their numbers. -/
  fields : Array String := #[]
  deriving Repr, Inhabited

namespace Types

/-- The type with a number. -/
def get (ts : Types) (t : Nat) : TypeInfo := ts.types[t]?.getD { text := "" }

/-- What remains of a type when up to so many pointers are followed. -/
def follow (ts : Types) : (fuel : Nat) → Nat → Nat
  | 0, t => t
  | fuel + 1, t =>
    match (ts.get t).element with
    | some e => ts.follow fuel e
    | none => t

/-- What a type points to in the end. A chain of pointers is no longer than there are types. -/
def dereference (ts : Types) (t : Nat) : Nat := ts.follow ts.types.size t

/-- The path of the package and the name that a type is declared under; both are empty if it has no
name. -/
def decompose (ts : Types) (t : Nat) : String × String :=
  match (ts.get t).declared with
  | some d => (d.path.getD "", d.name)
  | none => ("", "")

/-- A field of the struct that a type points to or is. -/
def field? (ts : Types) (t index : Nat) : Option Nat :=
  (ts.get (ts.dereference t)).fields.bind (·[index]?)

/-- The name of the struct that a type points to or is. -/
def ownerName (ts : Types) (t : Nat) : String :=
  match (ts.decompose (ts.dereference t)).2 with
  | "" => "struct"
  | name => name

end Types

end LeakCheck.Ssa
