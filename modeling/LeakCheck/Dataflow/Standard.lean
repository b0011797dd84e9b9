import LeakCheck.Dataflow.Solver
import LeakCheck.Text.Order

/-!
# Two standard problems

Integers under the maximum, and finite sets of words under union, each with a transfer given as a
table. A transfer records its calls and the changes it causes, and may be told to fail from a
certain evaluation on.
-/

namespace LeakCheck.Dataflow.Standard

/-- A record of what a solver did. -/
structure Trace (φ : Type) where
  /-- The transfers, with the values that entered. -/
  calls : List (Vertex × φ) := []
  /-- The changes, with the old and the new value. -/
  changes : List (Vertex × φ × φ) := []

/-- When a transfer fails, and with what text: from its evaluation number `since` on. -/
structure Failure where
  /-- The text of the failure. -/
  text : String
  /-- The first evaluation that fails, counted from one; zero is like one. -/
  since : Nat := 0
  deriving Repr, Inhabited

/-- A row of a transfer table. -/
structure Row (α : Type) where
  /-- What the row does to a value. -/
  action : α
  /-- When it fails. -/
  failure : Option Failure := none

/-- A recorded transfer: it fails if the row says so, and else lets `act` decide. -/
def recorded {α φ : Type} (act : α → φ → φ) (rows : Vertex → Option (Row α))
    (n : Vertex) (entering : φ) (trace : Trace φ) : Except String φ × Trace φ :=
  let trace := { trace with calls := trace.calls ++ [(n, entering)] }
  let count := trace.calls.countP (·.1 == n)
  match rows n with
  | none => (.ok entering, trace)
  | some row =>
    match row.failure with
    | some f =>
      if f.since ≤ count then (.error f.text, trace)
      else (.ok (act row.action entering), trace)
    | none => (.ok (act row.action entering), trace)

/-- Records a change. -/
def recordChange {φ : Type} (n : Vertex) (old new : φ) (trace : Trace φ) : Trace φ :=
  { trace with changes := trace.changes ++ [(n, old, new)] }

/-! ## Integers under the maximum -/

/-- What a row does to an integer. -/
inductive Shift where
  /-- Leaves it. -/
  | keep
  /-- Replaces it. -/
  | const (n : Int)
  /-- Adds to it within 64 bits, up to a limit. -/
  | add (n limit : Int)
  deriving Repr, Inhabited

/-- The integer after a row. -/
def Shift.act : Shift → Int → Int
  | .keep, x => x
  | .const n, _ => n
  | .add n limit, x => min ((x + n).bmod (Nat.pow 2 64)) limit

/-- The integers between which a row keeps what is at least `bottom`. -/
def Shift.bounds (bottom : Int) : Shift → List Int
  | .keep => []
  | .const n => [n]
  | .add n limit => [bottom + n, limit]

/-- The problem of the largest value that reaches each vertex. -/
def largest (bottom initial : Int) (rows : Vertex → Option (Row Shift)) :
    Problem Int (Trace Int) String where
  lattice := ⟨bottom, initial, max, (· == ·)⟩
  transfer := recorded Shift.act rows
  onChange := recordChange

/-- How often a value can rise: the distance between the integers that rows can bring in. -/
def rises (bottom initial : Int) (actions : List Shift) : Nat :=
  let bounds := initial :: actions.flatMap (Shift.bounds bottom)
  (bounds.foldl max bottom - bounds.foldl min bottom).toNat + 2

/-! ## Sets of words under union -/

/-- What a row does to a set of words. -/
structure WordChange where
  /-- The words taken out. -/
  kill : List String := []
  /-- The words put in, after that. -/
  gen : List String := []
  deriving Repr, Inhabited

/-- The words as a set: ascending, each once. -/
abbrev Words := List String

/-- The words after a row. -/
def WordChange.act (c : WordChange) (words : Words) : Words :=
  Text.sortedDistinct (words.filter (· ∉ c.kill) ++ c.gen)

/-- The problem of the words that reach each vertex. -/
def words (initial : List String) (rows : Vertex → Option (Row WordChange)) :
    Problem Words (Trace Words) String where
  lattice := ⟨[], Text.sortedDistinct initial, fun a b => Text.sortedDistinct (a ++ b), (· == ·)⟩
  transfer := recorded WordChange.act rows
  onChange := recordChange

/-- How often a set can grow: the number of words that rows can bring in. -/
def growths (initial : List String) (changes : List WordChange) : Nat :=
  (initial ++ changes.flatMap (·.gen)).eraseDups.length

end LeakCheck.Dataflow.Standard
