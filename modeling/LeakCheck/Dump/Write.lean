import LeakCheck.Dump.Dot
import LeakCheck.Dump.FileName
import LeakCheck.Dump.Listing
import LeakCheck.Ssa.Analyze
import LeakCheck.Storage.Workspace

/-!
# Writing dumps

The graph and the listing of an analysed function are written into a directory, which is made if it
is not there.
-/

namespace LeakCheck.Dump

open Storage (PathError Workspace joinPath)

/-- Writes files into a directory one after the other, up to the first failure. -/
def writeFiles (directory : String) (w : Workspace) :
    List (String × String) → Option PathError × Workspace
  | [] => (none, w)
  | (name, content) :: rest =>
    match w.write (joinPath directory name) content with
    | .error e => (some e, w)
    | .ok w => writeFiles directory w rest

/-- The files of the dump of a function. -/
def files (f : Ssa.Function) (o : Ssa.Outcome) : List (String × String) :=
  let facts := o.solution.after.get
  [(fileName f.text ++ ".dot", dotText f.text o.graph facts),
    (fileName f.text ++ ".ssa", listing f facts)]

/-- Writes the dump of a function into a directory. -/
def write (directory : String) (f : Ssa.Function) (o : Ssa.Outcome) (w : Workspace) :
    Option PathError × Workspace :=
  match w.makeDirectories directory with
  | .error e => (some e, w)
  | .ok w => writeFiles directory w (files f o)

end LeakCheck.Dump
