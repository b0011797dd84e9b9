import LeakCheck.Propagation.Analysis

/-!
# Sets of facts that are held by reference

A variable refers to a set of facts or to none; a missing set reads as the one without members, but
nothing can be added to it. Variables may share a set, and a change that is made through one of them
is seen through all. All sets that are made are new, those that are copied or joined too.
-/

namespace LeakCheck.Propagation

/-- The sets that were made and the variables that refer to them. -/
structure Heap where
  /-- The sets in the order in which they were made. -/
  cells : List FactSet
  /-- The place of the set that a variable refers to. -/
  ref : String → Option Nat
  /-- What variables refer to was made. -/
  made : ∀ x i, ref x = some i → i < cells.length

namespace Heap

/-- No set was made, and no variable refers to one. -/
def empty : Heap := ⟨[], fun _ => none, nofun⟩

instance : Inhabited Heap := ⟨empty⟩

/-- The set that a variable refers to. -/
def value (h : Heap) (x : String) : Option FactSet := (h.ref x).bind (h.cells[·]?)

/-- What a variable reads as. -/
def contents (h : Heap) (x : String) : FactSet := FactSet.contents (h.value x)

/-- Lets a variable refer to a place. -/
def assign (h : Heap) (x : String) (r : Option Nat) (hr : ∀ i, r = some i → i < h.cells.length) :
    Heap where
  cells := h.cells
  ref y := if y = x then r else h.ref y
  made := by
    intro y i hy
    split at hy
    · exact hr i hy
    · exact h.made y i hy

/-- Puts a set into a new place. -/
def push (h : Heap) (s : FactSet) : Heap where
  cells := h.cells ++ [s]
  ref := h.ref
  made := by
    intro x i hx
    rw [List.length_append]
    exact Nat.lt_add_right _ (h.made x i hx)

/-- Replaces the set at a place. -/
def put (h : Heap) (i : Nat) (s : FactSet) : Heap where
  cells := h.cells.set i s
  ref := h.ref
  made := by
    intro x j hx
    rw [List.length_set]
    exact h.made x j hx

/-- Replaces the set that a variable refers to, if there is one. -/
def replace (h : Heap) (x : String) (s : Option FactSet) : Heap :=
  match h.ref x, s with
  | some i, some s => h.put i s
  | _, _ => h

/-! ## Commands -/

/-- What a new set is made from. -/
inductive Source where
  /-- The listed facts. -/
  | listed (facts : List Fact)
  /-- The first value of every statement. -/
  | bottom
  /-- The value that enters a procedure. -/
  | entry
  /-- The facts of a set. -/
  | copy (x : String)
  /-- The facts of two sets. -/
  | union (x y : String)
  /-- The facts of two sets, as flow values are joined. -/
  | merge (x y : String)
  deriving DecidableEq, Repr, Inhabited

/-- The set that is made. -/
def Source.make (h : Heap) : Source → FactSet
  | .listed facts => .ofList facts
  | .bottom => Analysis.lattice.bottom
  | .entry => Analysis.lattice.entry
  | .copy x => h.contents x
  | .union x y => (h.contents x).union (h.contents y)
  | .merge x y => Analysis.lattice.merge (h.contents x) (h.contents y)

/-- A change of a set. -/
inductive Change where
  | add (f : Fact)
  | remove (f : Fact)
  deriving DecidableEq, Repr, Inhabited

/-- Changes a set that may be missing. -/
def Change.apply (s : Option FactSet) : Change → Except FactSet.Missing (Option FactSet)
  | .add f => (FactSet.insertInto s f).map some
  | .remove f => .ok (FactSet.eraseFrom s f)

/-- What can be done with variables. -/
inductive Command where
  /-- A variable gets a new set. -/
  | make (x : String) (source : Source)
  /-- A variable refers to the set of another one. -/
  | share (x y : String)
  /-- A variable refers to no set any more. -/
  | clear (x : String)
  /-- The set of a variable is changed. -/
  | change (x : String) (c : Change)
  deriving DecidableEq, Repr, Inhabited

/-- A new set, and a variable that refers to it. -/
def make (h : Heap) (x : String) (source : Source) : Heap :=
  (h.push (source.make h)).assign x (some h.cells.length) (by
    intro i hi
    cases hi
    simp [push])

/-- The heap after a command, unless the command is refused. -/
def step (h : Heap) : Command → Except FactSet.Missing Heap
  | .make x source => .ok (h.make x source)
  | .share x y => .ok (h.assign x (h.ref y) (h.made y))
  | .clear x => .ok (h.assign x none nofun)
  | .change x c => (c.apply (h.value x)).map (h.replace x)

/-- The heap after a command; one that is refused changes nothing. -/
def after (h : Heap) (c : Command) : Heap :=
  match h.step c with
  | .ok h' => h'
  | .error _ => h

/-- The heap after commands. -/
def run (h : Heap) (commands : List Command) : Heap := commands.foldl after h

end Heap

end LeakCheck.Propagation
