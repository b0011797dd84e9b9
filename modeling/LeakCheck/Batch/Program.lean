import LeakCheck.Ssa.Program
import LeakCheck.Suppression.Basic
import LeakCheck.Text.Order

/-!
# Loaded programs

The packages that were asked for, with their source and all functions of the program. What a front
end hands over may also be a failure to load.
-/

namespace LeakCheck.Batch

/-- A package that was asked for. -/
structure LoadedPackage where
  /-- Its path. -/
  path : String
  /-- Its source. -/
  source : Suppression.Source
  /-- The nodes that suppressing comments belong to. -/
  marked : List Nat := source.suppressed

/-- A loaded program. -/
structure Loaded where
  /-- The program. -/
  program : Ssa.Program
  /-- The packages that were asked for. -/
  packages : List LoadedPackage
  /-- All functions of the program. -/
  functions : List Nat

/-- What came of loading packages. -/
structure Loading where
  /-- The failure of the loader. -/
  failure : Option String := none
  /-- The number of packages that were found. -/
  roots : Nat := 0
  /-- The errors in packages. -/
  errors : List String := []
  /-- The program. -/
  loaded : Loaded

/-- Why there is no program. -/
inductive LoadError where
  /-- The loader failed. -/
  | loader (message : String)
  /-- No package was found. -/
  | noPackages (patterns : List String)
  /-- Packages have errors. -/
  | packages (errors : List String)
  deriving DecidableEq, Repr, Inhabited

/-- The wording of the failure. -/
def LoadError.message : LoadError → String
  | .loader message => "loading packages: " ++ message
  | .noPackages patterns => "no packages match [" ++ Text.join " " patterns ++ "]"
  | .packages errors => "loading packages: " ++ Text.join "\n" errors

/-- The program that was loaded for patterns. -/
def Loading.get (l : Loading) (patterns : List String) : Except LoadError Loaded :=
  match l.failure with
  | some message => .error (.loader message)
  | none =>
    if l.roots = 0 then .error (.noPackages patterns)
    else if l.errors ≠ [] then .error (.packages l.errors)
    else .ok l.loaded

namespace Loaded

/-- Whether a package was asked for. -/
def asksFor (l : Loaded) (path : Option String) : Bool :=
  l.packages.any fun k => some k.path = path

/-- Whether a function is analysed: it stands in the source of a package that was asked for, and it
is not generic unless it is an instance. -/
def isSource (l : Loaded) (f : Nat) : Bool :=
  let fn := l.program.get f
  let src := l.program.get (fn.origin.getD f)
  l.asksFor src.path && src.synthetic == "" && !(0 < fn.typeParams && fn.origin.isNone)

/-- The functions that are analysed, by their texts. -/
def sourceFunctions (l : Loaded) : List Nat :=
  Text.sortByText (fun f => (l.program.get f).text) (l.functions.filter l.isSource)

/-- Whether a comment in the source of a function suppresses a position. -/
def isSuppressed (l : Loaded) (f : Nat) (pos : Pos) : Bool :=
  let path := (l.program.get (l.program.source f)).path
  match l.packages.find? fun k => some k.path = path with
  | some k => k.source.isSuppressedAt k.marked pos
  | none => false

end Loaded

end LeakCheck.Batch
