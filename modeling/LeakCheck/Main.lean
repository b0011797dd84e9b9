import LeakCheck.Command.Run
import LeakCheck.Exchange.Program
import LeakCheck.Json.Reader
import LeakCheck.Log.Line

/-!
# The program

The effects around `Command.run`. The packages to analyse are read from standard input, in their
exchange form. Before a run the files and directories that it looks at are read, and after it those
that it made are written.
-/

namespace LeakCheck.Main

open Command (Flag Invocation)
open Storage (Piece Place Workspace)

/-- The environment variables that flags can be given by. -/
def readEnvironment : IO (List (String × String)) :=
  (Flag.all.filterMap Flag.environmentName?).filterMapM fun name => do
    return (← IO.getEnv name).map (name, ·)

/-- The packages on standard input. -/
def readLoading : IO Batch.Loading := do
  let text ← (← IO.getStdin).readToEnd
  match Json.parse? text.toList with
  | some j => return Exchange.loading j
  | none => return { Exchange.loading .null with failure := some "malformed program" }

/-- Whether there is a directory at a path. -/
def isDirectory (path : String) : IO Bool :=
  try
    discard (IO.FS.realPath (path ++ "/."))
    return true
  catch _ => return false

/-- Takes what is at a path into a workspace. -/
def look (w : Workspace) (path : String) : IO Workspace := do
  match w.locate path with
  | .error _ => return w
  | .ok place =>
    if ← isDirectory path then return w.addDirectory place
    try return w.put place [.bytes (← IO.FS.readBinFile path).toList]
    catch _ => return w

/-- Takes what is at paths, and on the way to them, into a workspace. -/
def lookAll (w : Workspace) (paths : List String) : IO Workspace :=
  (paths.flatMap fun path => Workspace.ancestors (Text.trimBlank path)).foldlM look w

/-- The bytes of a file. -/
def pieceBytes : Piece → List UInt8
  | .bytes bs => bs
  | .record r => Text.bytes r.line

/-- Writes the files and directories that are not as they were before. -/
def save (before after : Workspace) : IO Unit := do
  for place in after.directories do
    unless place ∈ before.directories do IO.FS.createDirAll (Place.path place)
  for (place, content) in after.files do
    unless before.content? place = some content do
      IO.FS.writeBinFile (Place.path place) ⟨(content.flatMap pieceBytes).toArray⟩

end LeakCheck.Main

open LeakCheck in
/-- Analyses the packages on standard input as the arguments and the environment say. -/
def main (args : List String) : IO UInt32 := do
  let i : Command.Invocation :=
    { args, environment := ← Main.readEnvironment, loading := ← Main.readLoading }
  let i := { i with workspace := ← Main.lookAll i.workspace i.paths }
  let i := { i with workspace := ← Main.lookAll i.workspace i.paths }
  let o := Command.run i
  Main.save i.workspace o.sinks.workspace
  IO.print o.stdout
  IO.eprint o.stderr
  return o.status.toUInt32
