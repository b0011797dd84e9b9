import Mathlib.Data.List.Perm.Subperm
import Mathlib.Data.List.Range

/-!
# Walks that end

Functions are declared in functions and types point to types. Both are looked up from number to
number, a bounded number of times. `EndsIn` is such a walk without the bound. A walk that ends meets
no number twice, so if only numbers below a size have a next one, it takes no more steps than that
(`EndsIn.le_size`), and a walk with that bound is never cut short (`EndsIn.walk_size`).
-/

namespace LeakCheck.Ssa

variable {next : Nat → Option Nat} {m n a b c : Nat}

/-- `n` steps from `a` is `b`, which has no next number. -/
inductive EndsIn (next : Nat → Option Nat) : Nat → Nat → Nat → Prop
  | here {b : Nat} (h : next b = none) : EndsIn next 0 b b
  | onwards {n a b c : Nat} (h : next a = some b) (hb : EndsIn next n b c) : EndsIn next (n + 1) a c

namespace EndsIn

/-- A number is one number of steps away from an end. -/
theorem unique (hm : EndsIn next m a b) (hn : EndsIn next n a c) : m = n := by
  induction hm generalizing n with
  | here h =>
    cases hn with
    | here => rfl
    | onwards h' => exact nomatch h.symm.trans h'
  | onwards h _ ih =>
    cases hn with
    | here h' => exact nomatch h.symm.trans h'
    | onwards h' hb =>
      cases h.symm.trans h'
      rw [ih hb]

/-- The numbers that a walk leaves, each once. -/
theorem exists_left (h : EndsIn next n a b) :
    ∃ left : List Nat, left.length = n ∧ left.Nodup ∧
      ∀ x ∈ left, (next x).isSome ∧ ∃ m ≤ n, EndsIn next m x b := by
  induction h with
  | here => exact ⟨[], rfl, List.nodup_nil, fun _ hx => (nomatch hx)⟩
  | @onwards n a a' b hnext hwalk ih =>
    obtain ⟨left, hlength, hnodup, hleft⟩ := ih
    refine ⟨a :: left, congrArg (· + 1) hlength, List.nodup_cons.2 ⟨fun ha => ?_, hnodup⟩, ?_⟩
    · -- `a` is farther from the end than what the rest of the walk leaves
      obtain ⟨-, m, hm, hx⟩ := hleft a ha
      have := hx.unique (.onwards hnext hwalk)
      omega
    · intro x hmem
      rcases List.mem_cons.1 hmem with rfl | hmem
      · exact ⟨by rw [hnext]; rfl, n + 1, le_rfl, .onwards hnext hwalk⟩
      · obtain ⟨hsome, m, hm, hx⟩ := hleft x hmem
        exact ⟨hsome, m, Nat.le_succ_of_le hm, hx⟩

/-- A walk that ends takes no more steps than there are numbers to go on from. -/
theorem le_size {size : Nat} (hsize : ∀ x y, next x = some y → x < size)
    (h : EndsIn next n a b) : n ≤ size := by
  obtain ⟨left, hlength, hnodup, hleft⟩ := h.exists_left
  have hsub : left.Subperm (List.range size) := by
    refine hnodup.subperm fun x hx => List.mem_range.2 ?_
    obtain ⟨y, hy⟩ := Option.isSome_iff_exists.1 (hleft x hx).1
    exact hsize x y hy
  calc n = left.length := hlength.symm
    _ ≤ (List.range size).length := hsub.length_le
    _ = size := List.length_range

/-- **The bound never cuts a walk short.** -/
theorem walk_size {walk : Nat → Nat → Nat} {size : Nat}
    (hlast : ∀ fuel x, next x = none → walk fuel x = x)
    (hnext : ∀ fuel x y, next x = some y → walk (fuel + 1) x = walk fuel y)
    (hsize : ∀ x y, next x = some y → x < size) (h : EndsIn next n a b) : walk size a = b := by
  have hle := h.le_size hsize
  clear hsize
  induction h generalizing size with
  | here h => exact hlast size _ h
  | onwards h _ ih =>
    cases size with
    | zero => cases hle
    | succ size =>
      rw [hnext size _ _ h]
      exact ih (Nat.le_of_succ_le_succ hle)

end EndsIn

end LeakCheck.Ssa
