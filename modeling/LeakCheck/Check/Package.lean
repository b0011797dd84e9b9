import LeakCheck.Check.Inspection
import LeakCheck.Config.Load
import LeakCheck.Suppression.Basic

/-!
# The check of a package

The functions of a package are checked one after the other, and every leak is a diagnostic.
-/

namespace LeakCheck.Check

open Log (Logger Sinks)
open Ssa (Program)

/-- A package with its source. -/
structure Package where
  /-- The program. -/
  program : Program
  /-- The functions of the package. -/
  functions : List Nat
  /-- The source. -/
  source : Suppression.Source

/-- A report at a position. -/
structure Diagnostic where
  /-- Where the secret escapes. -/
  pos : Pos
  /-- What is said about it. -/
  message : String
  deriving DecidableEq, Repr, Inhabited

/-- What is said about a leak: where the secret comes from, and what the configuration adds. -/
def leakMessage (conf : Config) (p : Program) (l : Leak) : String :=
  "a secret escapes this function" ++
    (if l.origin.pos.isValid then "\n secret: " ++ p.placeText l.origin.pos else "") ++
    (if conf.message = "" then "" else "\n " ++ conf.message)

/-- The diagnostic of a leak of a function. -/
def diagnostic (conf : Config) (p : Program) (f : Nat) (l : Leak) : Diagnostic :=
  ⟨leakPos p f l, leakMessage conf p l⟩

/-- What comes of the analysis of a function of a package. -/
def Package.inspect (k : Package) (conf : Config) (marked : List Nat) (f : Nat) : Inspection :=
  Check.inspect k.program conf.secret (k.source.isSuppressedAt marked) (suppressedRecord []) f

/-- Why the check of a package failed. -/
inductive PackageError where
  /-- There is no configuration. -/
  | config (e : Config.LoadError)
  /-- The logger cannot be set up. -/
  | logger (e : Log.SetupError)
  /-- The analysis of a function failed. -/
  | analysis (e : Ssa.AnalyzeError Empty)

/-- The wording of the failure. -/
def PackageError.message : PackageError → String
  | .config e => e.message
  | .logger e => e.message
  | .analysis e => e.message fun x => nomatch x

/-- Checks functions one after the other, up to the first failure. -/
def Package.checkAll (k : Package) (conf : Config) (logger : Logger) (marked : List Nat) :
    List Nat → List Diagnostic → Sinks → Except PackageError (List Diagnostic) × Sinks
  | [], found, s => (.ok found, s)
  | f :: rest, found, s =>
    if isExcluded conf k.program f then
      k.checkAll conf logger marked rest found (logger.write (excludedRecord k.program f) s)
    else
      let i := k.inspect conf marked f
      match conclude conf logger k.program f i s with
      | (.failed e, s) => (.error (.analysis e), s)
      | (_, s) =>
        k.checkAll conf logger marked rest (found ++ i.leaks.map (diagnostic conf k.program f)) s

/-- Checks a package under a configuration. -/
def Package.check (k : Package) (conf : Config) (s : Sinks) :
    Except PackageError (List Diagnostic) × Sinks :=
  match Logger.setup { level := conf.logLevel } s.workspace with
  | (.error e, workspace) => (.error (.logger e), { s with workspace })
  | (.ok logger, workspace) =>
    k.checkAll conf logger k.source.suppressed k.functions [] { s with workspace }

/-- Checks a package under the configuration that a reader gives. -/
def Package.checkWith (k : Package) (reader : Config.Reader) (s : Sinks) :
    Except PackageError (List Diagnostic) × Sinks :=
  match (reader.get s.workspace).1 with
  | .error e => (.error (.config e), s)
  | .ok conf => k.check conf s

end LeakCheck.Check
