import LeakCheck.Node

/-!
# Assignments

An assignment gives every vertex a value: what was last set for it, or else the default.
-/

namespace LeakCheck

/-- A value for every vertex. -/
structure Assignment (φ : Type) where
  /-- The value of the vertices that none was set for. -/
  default : φ
  /-- The values that were set, one for each vertex. -/
  entries : List (Vertex × φ)

namespace Assignment

variable {φ : Type}

/-- The assignment of one value to all vertices. -/
def const (value : φ) : Assignment φ := ⟨value, []⟩

/-- The value that a list of entries has for a vertex. -/
def lookup (default : φ) (n : Vertex) : List (Vertex × φ) → φ
  | [] => default
  | e :: rest => if e.1 = n then e.2 else lookup default n rest

/-- The value of a vertex. -/
def get (a : Assignment φ) (n : Vertex) : φ := lookup a.default n a.entries

/-- Replaces the entry of a vertex, or adds one. -/
def put (n : Vertex) (value : φ) : List (Vertex × φ) → List (Vertex × φ)
  | [] => [(n, value)]
  | e :: rest => if e.1 = n then (n, value) :: rest else e :: put n value rest

/-- Gives a vertex a new value. -/
def set (a : Assignment φ) (n : Vertex) (value : φ) : Assignment φ :=
  { a with entries := put n value a.entries }

@[simp] theorem get_const (value : φ) (n : Vertex) : (const value).get n = value := rfl

theorem lookup_put (default value : φ) (n m : Vertex) (entries : List (Vertex × φ)) :
    lookup default m (put n value entries) =
      if m = n then value else lookup default m entries := by
  induction entries with
  | nil =>
    by_cases h : m = n
    · simp [put, lookup, h]
    · simp [put, lookup, h, Ne.symm h]
  | cons e rest ih =>
    by_cases he : e.1 = n
    · by_cases h : m = n
      · simp [put, lookup, he, h]
      · simp [put, lookup, he, h, Ne.symm h]
    · by_cases h : e.1 = m
      · have hm : m ≠ n := fun hmn => he (h.trans hmn)
        simp [put, lookup, h, hm]
      · simp [put, lookup, he, h, ih]

/-- A vertex has the value that was set for it, and setting one leaves the others alone. -/
theorem get_set (a : Assignment φ) (n m : Vertex) (value : φ) :
    (a.set n value).get m = if m = n then value else a.get m :=
  lookup_put a.default value n m a.entries

end Assignment

end LeakCheck
