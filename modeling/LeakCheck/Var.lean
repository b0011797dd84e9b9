/-!
# Variables

A variable refers to a slot of the procedure's own frame or to a slot outside it. Two variables
are equal iff they have the same scope and the same slot.
-/

namespace LeakCheck

/-- What a variable refers to. Two slots are the same iff they have the same form and content. -/
inductive Slot where
  /-- A slot with a name; the key tells apart slots of one name. -/
  | named (name key : String)
  /-- A slot that has no name but a description. -/
  | described (text : String)
  /-- A slot with a name and a description. -/
  | labelled (name text : String)
  /-- A text that is its own slot. -/
  | literal (content : String)
  /-- A number that is its own slot. -/
  | number (n : Int)
  /-- A truth value that is its own slot. -/
  | truth (b : Bool)
  /-- The value of a procedure with this number. -/
  | value (index : Nat) (name : String)
  /-- A field of a struct, shown under the type it was first reached through. -/
  | field (object : Nat) (owner name : String)
  deriving DecidableEq, Repr, Inhabited

/-- How a slot is shown: by its name if it has one, else by its description or content. -/
def Slot.name : Slot → String
  | .named name _ => name
  | .described text => text
  | .labelled name _ => name
  | .literal content => content
  | .number n => toString n
  | .truth b => if b then "true" else "false"
  | .value _ name => name
  | .field _ owner name => owner ++ "." ++ name

/-- Where a variable lives. -/
inductive Scope where
  /-- The scope of the variable that refers to nothing. -/
  | unset
  /-- The procedure's own frame. -/
  | frame
  /-- Outside the frame: a field of a struct or a variable of a package. -/
  | outside
  deriving DecidableEq, Repr, Inhabited

/-- How a scope is shown. -/
def Scope.text : Scope → String
  | .unset => "invalid"
  | .frame => "local"
  | .outside => "field"

/-- A reference to a declared slot. The default variable refers to nothing. -/
structure Var where
  /-- Where the variable lives. -/
  scope : Scope := .unset
  /-- The slot it refers to. -/
  slot : Option Slot := none
  deriving DecidableEq, Repr, Inhabited

namespace Var

/-- A variable of the frame. -/
def inFrame (slot : Slot) : Var := ⟨.frame, some slot⟩

/-- A variable outside the frame. -/
def ofField (slot : Slot) : Var := ⟨.outside, some slot⟩

/-- Whether the variable lives in the frame. -/
def isLocal (v : Var) : Bool := v.scope == .frame

/-- Whether the variable lives outside the frame. -/
def isField (v : Var) : Bool := v.scope == .outside

/-- Whether the variable refers to a slot. -/
def isValid (v : Var) : Bool := (v.isLocal || v.isField) && v.slot.isSome

/-- How the variable's slot is shown. -/
def name (v : Var) : String :=
  match v.slot with
  | some slot => slot.name
  | none => "<nil>"

/-- The scope and the name. -/
def text (v : Var) : String := v.scope.text ++ " " ++ v.name

end Var

end LeakCheck
