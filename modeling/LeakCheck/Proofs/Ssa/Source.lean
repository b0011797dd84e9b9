import LeakCheck.Proofs.Ssa.Walk
import LeakCheck.Ssa.Program

/-!
# Functions as they stand in the source

`Program.outermost` goes from a function to the one it is declared in, a bounded number of times.
`OutermostIn` is the same walk without the bound. Only functions of the program have a parent, so
the bound never cuts the walk short (`outermost_eq`).
-/

namespace LeakCheck.Ssa.Program

variable {p : Program}

/-- `n` steps outwards from `f` is `r`, which is not declared in another function. -/
inductive OutermostIn (p : Program) : Nat → Nat → Nat → Prop
  | self {r : Nat} (h : (p.get r).parent = none) : OutermostIn p 0 r r
  | outwards {n f g r : Nat} (h : (p.get f).parent = some g) (hg : OutermostIn p n g r) :
      OutermostIn p (n + 1) f r

theorem lt_size_of_parent {f g : Nat} (h : (p.get f).parent = some g) : f < p.functions.size := by
  by_contra hf
  rw [get, Array.getElem?_eq_none (Nat.le_of_not_lt hf)] at h
  cases h

theorem OutermostIn.endsIn {n f r : Nat} (h : p.OutermostIn n f r) :
    EndsIn (fun f => (p.get f).parent) n f r := by
  induction h with
  | self hparent => exact .here hparent
  | outwards hparent _ ih => exact .onwards hparent ih

/-- **The bound never cuts the walk short.** -/
theorem OutermostIn.outermost_eq {n f r : Nat} (h : p.OutermostIn n f r) :
    p.outermost p.functions.size f = r := by
  refine h.endsIn.walk_size (fun fuel f hparent => ?_) (fun fuel f g hparent => ?_)
    (fun _ _ => lt_size_of_parent)
  · cases fuel with
    | zero => rfl
    | succ fuel => simp only [outermost, hparent]
  · simp only [outermost, hparent]

/-- The function as it stands in the source is the outermost one, or the generic function that this
is an instance of. -/
theorem OutermostIn.source_eq {n f r : Nat} (h : p.OutermostIn n f r) :
    p.source f = (p.get r).origin.getD r := by
  rw [source, h.outermost_eq]

end LeakCheck.Ssa.Program
