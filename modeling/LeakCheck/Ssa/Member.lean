import LeakCheck.Ssa.Types

/-!
# Members of packages

Functions, variables, types and constants of a package, and the parameters of its functions.
-/

namespace LeakCheck.Ssa

/-- A member of a package or a parameter of a function. -/
structure Member where
  /-- Its name. -/
  name : String
  /-- The name of its form. -/
  form : String
  /-- Its type. -/
  type : Nat
  deriving DecidableEq, Repr, Inhabited

/-- Whether a member is part of the code; types and constants are not. -/
def Member.isNode (m : Member) : Bool := m.form ≠ "Type" && m.form ≠ "NamedConst"

/-- What a member is called: its name and form if it is part of the code, the package and name of
its type, the text of what the type points to in the end, and its package and name. -/
structure Names where
  /-- The name and the form. -/
  node : Option (String × String)
  /-- The package and the name of the type. -/
  type : String × String
  /-- The text of what the type points to. -/
  target : String
  /-- The package and the name of what the type points to. -/
  targetType : String × String
  deriving DecidableEq, Repr, Inhabited

/-- What a member is called. -/
def Member.names (ts : Types) (m : Member) : Names :=
  let target := ts.dereference m.type
  ⟨if m.isNode then some (m.name, m.form) else none, ts.decompose m.type, (ts.get target).text,
    ts.decompose target⟩

end LeakCheck.Ssa
