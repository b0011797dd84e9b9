import LeakCheck.Node
import LeakCheck.Statement
import LeakCheck.Text.Order

/-!
# Facts and sets of facts

A fact says that a variable holds a secret, and which statement established that. A set holds
every fact at most once; that is part of its type, so comparing sizes and one inclusion decides
equality (`FactSet.equal`).
-/

namespace LeakCheck

/-- A variable holds a secret since the statement `origin`. -/
structure Fact where
  /-- The statement that last established the fact. -/
  origin : Vertex
  /-- The variable that holds the secret. -/
  var : Var
  deriving DecidableEq, Repr, Inhabited

namespace Fact

/-- How a fact is shown. -/
def text (f : Fact) : String := f.var.name ++ " <- " ++ f.origin.text

/-- Why no fact can be stated: its variable refers to nothing. -/
structure InvalidVariable where
  /-- The statement that would have been the origin. -/
  origin : Vertex
  /-- The variable that refers to nothing. -/
  var : Var
  deriving DecidableEq, Repr, Inhabited

/-- The wording of the refusal. -/
def InvalidVariable.message (e : InvalidVariable) : String :=
  "taint: fact for invalid variable " ++ e.var.text ++ " at " ++ e.origin.text

/-- The fact about a variable, provided that it refers to something. -/
def make (origin : Vertex) (v : Var) : Except InvalidVariable Fact :=
  if v.isValid then .ok ⟨origin, v⟩ else .error ⟨origin, v⟩

end Fact

/-- A finite set of facts. -/
structure FactSet where
  /-- The members, each once, in the order they came in. -/
  facts : List Fact
  /-- No member occurs twice. -/
  nodup : facts.Nodup

namespace FactSet

/-- The set without members. -/
def empty : FactSet := ⟨[], List.nodup_nil⟩

instance : Inhabited FactSet := ⟨empty⟩

/-- Membership. -/
def has (s : FactSet) (f : Fact) : Bool := s.facts.contains f

/-- The number of members. -/
def size (s : FactSet) : Nat := s.facts.length

/-- Adds a fact unless it is a member already. -/
def insert (s : FactSet) (f : Fact) : FactSet :=
  if h : f ∈ s.facts then s
  else ⟨s.facts ++ [f], by
    rw [List.nodup_append]
    refine ⟨s.nodup, by simp, ?_⟩
    intro a ha b hb hab
    rw [List.mem_singleton] at hb
    exact h (hb ▸ hab ▸ ha)⟩

/-- The members that satisfy a condition. -/
def filter (p : Fact → Bool) (s : FactSet) : FactSet := ⟨s.facts.filter p, s.nodup.filter p⟩

/-- Takes a fact out. -/
def erase (s : FactSet) (f : Fact) : FactSet := s.filter (· != f)

/-- The set of the listed facts. -/
def ofList (facts : List Fact) : FactSet := facts.foldl insert empty

/-- The facts of both sets: those of `s` and then those of `t` that are new. -/
def union (s t : FactSet) : FactSet :=
  ⟨s.facts ++ t.facts.filter (!s.has ·), by
    rw [List.nodup_append]
    refine ⟨s.nodup, t.nodup.filter _, ?_⟩
    intro a ha b hb hab
    subst hab
    simp [has, ha] at hb⟩

/-- Whether every member of `s` is one of `t`. -/
def subset (s t : FactSet) : Bool := s.facts.all t.has

/-- Whether two sets have the same members: as many, and those of the one in the other. -/
def equal (s t : FactSet) : Bool := s.size == t.size && s.subset t

/-- The facts about a variable. -/
def about (s : FactSet) (v : Var) : List Fact := s.facts.filter (·.var == v)

/-- Whether some fact is about a variable. -/
def tainted (s : FactSet) (v : Var) : Bool := s.facts.any (·.var == v)

/-- The members in the order of their texts. -/
def sorted (s : FactSet) : List Fact := Text.sortByText Fact.text s.facts

/-- How a set is shown: its members in the order of their texts. -/
def text (s : FactSet) : String := "[" ++ Text.join " " (s.sorted.map Fact.text) ++ "]"

/-! ## Membership -/

theorem has_iff (s : FactSet) (f : Fact) : s.has f = true ↔ f ∈ s.facts := by simp [has]

@[simp] theorem has_empty (f : Fact) : empty.has f = false := rfl

theorem has_insert (s : FactSet) (f g : Fact) :
    (s.insert f).has g = true ↔ s.has g = true ∨ g = f := by
  rw [has_iff, has_iff]
  unfold insert
  split
  · next h => exact ⟨.inl, fun hg => hg.elim id (fun e => e ▸ h)⟩
  · simp

theorem has_filter (p : Fact → Bool) (s : FactSet) (f : Fact) :
    (s.filter p).has f = true ↔ s.has f = true ∧ p f = true := by
  simp [has_iff, filter]

theorem has_erase (s : FactSet) (f g : Fact) :
    (s.erase f).has g = true ↔ s.has g = true ∧ g ≠ f := by
  simp [erase, has_filter]

theorem has_union (s t : FactSet) (f : Fact) :
    (s.union t).has f = true ↔ s.has f = true ∨ t.has f = true := by
  simp only [has_iff, union, List.mem_append, List.mem_filter]
  constructor
  · rintro (h | h)
    · exact .inl h
    · exact .inr h.1
  · rintro (h | h)
    · exact .inl h
    · by_cases hs : f ∈ s.facts
      · exact .inl hs
      · exact .inr ⟨h, by simpa [has] using hs⟩

/-! ## Sets that may be missing -/

/-- The refusal to add to a set that is missing. -/
structure Missing where
  deriving DecidableEq, Repr, Inhabited

/-- The wording of the refusal. -/
def Missing.message (_ : Missing) : String := "assignment to entry in nil map"

/-- What a set that may be missing reads as. -/
def contents (s : Option FactSet) : FactSet := s.getD empty

/-- Adds a fact to a set that may be missing. -/
def insertInto (s : Option FactSet) (f : Fact) : Except Missing FactSet :=
  match s with
  | some s => .ok (s.insert f)
  | none => .error ⟨⟩

/-- Takes a fact out of a set that may be missing. -/
def eraseFrom (s : Option FactSet) (f : Fact) : Option FactSet := s.map (·.erase f)

end FactSet

end LeakCheck
