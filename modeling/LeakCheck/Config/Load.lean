import LeakCheck.Config.Basic
import LeakCheck.Storage.Workspace

/-!
# Configuration files

A configuration file is read from the workspace. A `Reader` reads the file that a flag names once
and keeps what came of it.
-/

namespace LeakCheck.Config

open Storage (Workspace PathError)

/-- Why there is no configuration. -/
inductive LoadError where
  /-- The file cannot be read. -/
  | unreadable (e : PathError)
  /-- The text is refused. -/
  | refused (e : ReadError)
  deriving DecidableEq, Repr, Inhabited

/-- The wording of the failure as far as it is settled. -/
def LoadError.message : LoadError → String
  | .unreadable e => "error reading analysis config: " ++ e.message
  | .refused e => e.message

/-- The wording of the failure in full. -/
def LoadError.report : LoadError → String
  | .unreadable e => "error reading analysis config: " ++ e.message
  | .refused e => e.report

/-- Reads the configuration file at a path. -/
def load (w : Workspace) (path : String) : Except LoadError Config :=
  match w.read path with
  | .error e => .error (.unreadable e)
  | .ok bytes => (read bytes).mapError .refused

/-- Reads a configuration file once. -/
structure Reader where
  /-- The path of the file. -/
  path : String := "config.yaml"
  /-- What came of reading it. -/
  kept : Option (Except LoadError Config) := none
  deriving Inhabited

/-- The configuration, or why there is none. The first answer is kept. -/
def Reader.get (r : Reader) (w : Workspace) : Except LoadError Config × Reader :=
  match r.kept with
  | some answer => (answer, r)
  | none =>
    let answer := load w r.path
    (answer, { r with kept := some answer })

end LeakCheck.Config
