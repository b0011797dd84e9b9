import LeakCheck.Fact.Basic
import LeakCheck.Ssa.Flow

/-!
# Listings of functions

The instructions of a function block by block, each followed by the facts that hold after it.
-/

namespace LeakCheck.Dump

open Ssa (Block Function Instr)

/-- A text filled up with blanks to a width. -/
def padded (width : Nat) (s : String) : String :=
  s ++ String.ofList (List.replicate (width - s.length) ' ')

/-- The lines for the instruction that is the `k`-th of its block. -/
def instrLines (f : Function) (facts : Vertex → FactSet) (k : Nat) (i : Instr) (n : Vertex) :
    String :=
  let after := facts n
  "\t" ++ toString k ++ "(" ++ padded 12 i.form ++ "): " ++ f.instrText i ++ "\n" ++
    if after.facts.isEmpty then "" else "\t\t" ++ after.text ++ "\n"

/-- The lines for the `k`-th block. -/
def blockLines (f : Function) (facts : Vertex → FactSet) (k : Nat) (b : Block)
    (row : List Vertex) : String :=
  toString k ++ ": " ++ b.comment ++ "\n" ++
    String.join ((b.instrs.zip row).zipIdx.map fun ((i, n), j) => instrLines f facts j i n)

/-- The listing of a function with the facts that hold after its instructions. -/
def listing (f : Function) (facts : Vertex → FactSet) : String :=
  String.join ((f.blocks.zip f.rows).zipIdx.map fun ((b, row), k) => blockLines f facts k b row)

end LeakCheck.Dump
