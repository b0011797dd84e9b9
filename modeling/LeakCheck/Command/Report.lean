import LeakCheck.Batch.Run

/-!
# The printed report

The leaks of a batch, grouped by function, and a summary.
-/

namespace LeakCheck.Command

/-- A position after what stands there, if there is one. -/
def placeSuffix (p : Ssa.Program) (pos : Pos) : String :=
  if pos.isValid then " (" ++ p.placeText pos ++ ")" else ""

/-- The lines for a leak: where the secret escapes and where it comes from. -/
def leakLines (p : Ssa.Program) (l : Leak) : String :=
  "  " ++ l.site.text ++ placeSuffix p l.site.pos ++ "\n    secret from " ++ l.origin.text ++
    placeSuffix p l.origin.pos ++ "\n"

/-- The lines for a function with leaks. -/
def groupLines (p : Ssa.Program) (group : String × List Leak) : String :=
  group.1 ++ "\n" ++ String.join (group.2.map (leakLines p))

/-- How many leaks there are, and in how many functions. -/
def leakCount (leaks : List Leak) : String :=
  if leaks.isEmpty then "no leaks found"
  else
    toString leaks.length ++ " leaks in " ++ toString (Leak.byProcedure leaks).length ++
      " functions"

/-- The printed report of a batch. -/
def reportText (p : Ssa.Program) (r : Batch.Result) : String :=
  String.join ((Leak.byProcedure r.leaks).map (groupLines p)) ++ leakCount r.leaks ++ " (" ++
    toString r.analyzed ++ " functions analyzed, " ++ toString r.excluded ++ " excluded)\n"

end LeakCheck.Command
