import LeakCheck.Storage.Workspace
import LeakCheck.Text.Blank

/-!
# Loggers

A logger writes the records of its level and above to the standard streams and to files.
-/

namespace LeakCheck.Log

open Storage (Place PathError Workspace)

/-- What a logger should be like. -/
structure Settings where
  /-- The level; a logger without one writes nothing. -/
  level : String := ""
  /-- Where records go, divided by semicolons; to standard error if empty. -/
  outputs : String := ""
  /-- Whether records tell where they come from. -/
  caller : Bool := false
  deriving Repr, Inhabited

/-- Where records go. -/
inductive Output where
  | stdout
  | stderr
  /-- A file. -/
  | file (path : String) (place : Place)
  deriving DecidableEq, Repr, Inhabited

/-- What was written so far. -/
structure Sinks where
  /-- The records on standard output. -/
  stdout : List Record := []
  /-- The records on standard error. -/
  stderr : List Record := []
  /-- The files. -/
  workspace : Workspace := {}
  deriving Repr, Inhabited

/-- A logger. -/
structure Logger where
  /-- The least level of records that are written. -/
  level : Level := .disabled
  /-- Where they go. -/
  outputs : List Output := []
  /-- Whether they tell where they come from. -/
  caller : Bool := false
  deriving Repr, Inhabited

/-- Why a logger cannot be set up. -/
inductive SetupError where
  /-- The level is none. -/
  | level (text : String) (e : Level.ReadError)
  /-- A file cannot be opened. -/
  | file (e : PathError)
  deriving DecidableEq, Repr, Inhabited

/-- The wording of the failure. -/
def SetupError.message : SetupError → String
  | .level text e => "invalid log level " ++ Text.quote text ++ ": " ++ e.message
  | .file e => "opening log file: " ++ e.message

/-- Opens outputs in turn. Files that are not there are made, also if a later one fails. -/
def openOutputs (w : Workspace) : List String → Except PathError (List Output) × Workspace
  | [] => (.ok [], w)
  | name :: rest =>
    match Text.trimBlank name with
    | "" => openOutputs w rest
    | "stdout" =>
      let (outputs, w) := openOutputs w rest
      (outputs.map (.stdout :: ·), w)
    | "stderr" =>
      let (outputs, w) := openOutputs w rest
      (outputs.map (.stderr :: ·), w)
    | path =>
      match w.openToAppend path with
      | .error e => (.error e, w)
      | .ok (place, w) =>
        let (outputs, w) := openOutputs w rest
        (outputs.map (.file path place :: ·), w)

/-- Sets up a logger. -/
def Logger.setup (s : Settings) (w : Workspace) : Except SetupError Logger × Workspace :=
  if s.level = "" then (.ok {}, w)
  else
    match Level.read s.level with
    | .error e => (.error (.level s.level e), w)
    | .ok level =>
      let outputs := if s.outputs = "" then "stderr" else s.outputs
      let (opened, w) := openOutputs w (outputs.splitOn ";")
      ((opened.map fun outputs => ⟨level, outputs, s.caller⟩).mapError .file, w)

/-- Writes a record to an output. -/
def Sinks.write (s : Sinks) (r : Record) : Output → Sinks
  | .stdout => { s with stdout := s.stdout ++ [r] }
  | .stderr => { s with stderr := s.stderr ++ [r] }
  | .file _ place => { s with workspace := s.workspace.append place (.record r) }

/-- The record as a logger writes it. The time is not part of it, and where it comes from is left
open. -/
def Logger.complete (l : Logger) (r : Record) : Record :=
  { r with fields := r.fields.filter (·.1 ≠ "time") ++
      if l.caller then [("caller", .text "?")] else [] }

/-- Writes a record to all outputs if its level is not below that of the logger. -/
def Logger.write (l : Logger) (r : Record) (s : Sinks) : Sinks :=
  if l.level.admits r.level then l.outputs.foldl (fun s o => s.write (l.complete r) o) s else s

/-- The paths of the files of a logger. -/
def Logger.paths (l : Logger) : List String :=
  l.outputs.filterMap fun
    | .file path _ => some path
    | _ => none

/-- The failure to close the files of a logger once more, after `times` times. -/
def Logger.closeError? (l : Logger) (times : Nat) : Option String :=
  if times = 0 ∨ l.paths.isEmpty then none
  else some (Text.join "\n" (l.paths.map fun path => "close " ++ path ++ ": file already closed"))

end LeakCheck.Log
