import LeakCheck.Text.Category
import LeakCheck.Text.ScriptTable

/-!
# Scripts

`scriptRuns` lists the stretches of equal script and `scripts` the names of the scripts with their
codes.
-/

namespace LeakCheck.Text

/-- The runs of equal script. -/
def scriptRuns : Array Run := Run.ofTable 4 scriptTable

/-- The names of the scripts with their four-letter codes. -/
def scripts : List (String × String) :=
  (scriptNames.flatMap (·.splitOn " ")).filterMap fun item =>
    match item.splitOn "=" with
    | [code, name] => some (name, code)
    | _ => none

end LeakCheck.Text
