import LeakCheck.Check.Inspection
import LeakCheck.Proofs.Ssa.Classifier
import LeakCheck.Proofs.Ssa.Source

/-!
# Exclusion follows the declaring function

Whether a function is excluded is decided by the names of another one: the outermost function that
it is declared in, or the generic function that this is an instance of. An instance is declared in
an instance, and their generic functions in each other (`Program.Connected`), so the way out of an
instance and the way out of its generic function end in an instance and its generic function
(`Program.Connected.outermostIn_origin`). So a function has the names of its parent and those of
its origin, and whatever belongs to a function is excluded with it
(`Program.exclusion_follows_declaration`).
-/

namespace LeakCheck.Ssa.Program

variable {p : Program} {f g o r n : Nat} {d : String × String × String}

/-! ## Names without bounds -/

/-- The names of a function: the path of its package, the name of the type of its receiver, over any
number of pointers, and its own. -/
inductive Names (p : Program) (g : Nat) : String × String × String → Prop
  | plain (h : (p.get g).receiver = none) : Names p g ((p.get g).path.getD "", "", (p.get g).name)
  | method {t u : Nat} (h : (p.get g).receiver = some t) (hu : p.types.PointsTo t u) :
      Names p g ((p.get g).path.getD "", (p.types.decompose u).2, (p.get g).name)

/-- What comes of `Program.decompose` if nothing bounds its steps: outwards as long as there is a
parent, then to the origin if there is one, then along the pointers of the receiver. -/
def Decomposes (p : Program) (f : Nat) (d : String × String × String) : Prop :=
  ∃ n r, p.OutermostIn n f r ∧ p.Names ((p.get r).origin.getD r) d

theorem Names.eq (h : p.Names (p.source f) d) : p.decompose f = d := by
  cases h with
  | plain h => simp only [decompose, h]
  | method h hu => simp only [decompose, h, hu.dereference_eq]

theorem Decomposes.eq (h : p.Decomposes f d) : p.decompose f = d := by
  obtain ⟨n, r, hwalk, hnames⟩ := h
  rw [← hwalk.source_eq] at hnames
  exact hnames.eq

/-- The steps end if the parents and the pointers of the receiver do. -/
theorem OutermostIn.decomposes (h : p.OutermostIn n f r)
    (hreceiver : ∀ t, (p.get (p.source f)).receiver = some t → ∃ u, p.types.PointsTo t u) :
    p.Decomposes f (p.decompose f) := by
  have hnames : ∃ d, p.Names (p.source f) d := by
    cases hsource : (p.get (p.source f)).receiver with
    | none => exact ⟨_, .plain hsource⟩
    | some t =>
      obtain ⟨u, hu⟩ := hreceiver t hsource
      exact ⟨_, .method hsource hu⟩
  obtain ⟨d, hd⟩ := hnames
  rw [hd.eq]
  exact ⟨n, r, h, h.source_eq ▸ hd⟩

/-! ## Parents and origins -/

/-- How the functions of a program are connected. -/
structure Connected (p : Program) : Prop where
  /-- A function is declared, through finitely many others, in an outermost one. -/
  parents : ∀ f, ∃ n r, p.OutermostIn n f r
  /-- A generic function is not an instance. -/
  generic : ∀ f o, (p.get f).origin = some o → (p.get o).origin = none
  /-- An instance that is declared in a function: the origin of this function is the function that
  the origin of the instance is declared in. -/
  inner : ∀ f g o, (p.get f).parent = some g → (p.get f).origin = some o →
    ∃ q, (p.get g).origin = some q ∧ (p.get o).parent = some q
  /-- An instance that is not declared in a function: neither is its origin. -/
  outer : ∀ f o, (p.get f).parent = none → (p.get f).origin = some o → (p.get o).parent = none

/-- The functions that belong to `g`. -/
inductive Belongs (p : Program) (g : Nat) : Nat → Prop
  | self : Belongs p g g
  /-- What is declared in a function that belongs to `g`. -/
  | inner {f h : Nat} (hparent : (p.get f).parent = some h) (hh : Belongs p g h) : Belongs p g f
  /-- The instances of a function that belongs to `g`. -/
  | instantiated {f h : Nat} (horigin : (p.get f).origin = some h) (hh : Belongs p g h) :
      Belongs p g f

theorem decompose_eq_of_source (h : p.source f = p.source g) : p.decompose f = p.decompose g := by
  rw [decompose, decompose, h]

/-- The way out of an instance and the way out of its origin end in an instance and its origin. -/
theorem Connected.outermostIn_origin (hp : p.Connected) (h : p.OutermostIn n f r)
    (horigin : (p.get f).origin = some o) :
    ∃ q, (p.get r).origin = some q ∧ p.OutermostIn n o q := by
  induction h generalizing o with
  | self hparent => exact ⟨o, horigin, .self (hp.outer _ _ hparent horigin)⟩
  | outwards hparent _ ih =>
    obtain ⟨q, hq, hoparent⟩ := hp.inner _ _ _ hparent horigin
    obtain ⟨q', hq', hwalk⟩ := ih hq
    exact ⟨q', hq', .outwards hoparent hwalk⟩

theorem Connected.decompose_parent (hp : p.Connected) (h : (p.get f).parent = some g) :
    p.decompose f = p.decompose g := by
  obtain ⟨n, r, hwalk⟩ := hp.parents g
  refine decompose_eq_of_source ?_
  rw [hwalk.source_eq, (OutermostIn.outwards h hwalk).source_eq]

theorem Connected.decompose_origin (hp : p.Connected) (h : (p.get f).origin = some o) :
    p.decompose f = p.decompose o := by
  obtain ⟨n, r, hwalk⟩ := hp.parents f
  obtain ⟨q, hq, howalk⟩ := hp.outermostIn_origin hwalk h
  refine decompose_eq_of_source ?_
  rw [hwalk.source_eq, howalk.source_eq, hq, hp.generic r q hq]
  rfl

theorem Belongs.decompose_eq (hp : p.Connected) (h : p.Belongs g f) :
    p.decompose f = p.decompose g := by
  induction h with
  | self => rfl
  | inner hparent _ ih => rw [hp.decompose_parent hparent, ih]
  | instantiated horigin _ ih => rw [hp.decompose_origin horigin, ih]

/-- **Exclusion follows the declaring function.** In a program whose functions are connected, the
walk over the parents of a function ends. With it and the pointers of the receiver, which the walk
over them needs to end, the names of the function are all that can come of decomposing it. They are
the names of the parent and the names of the origin, so every configuration excludes a function,
what is declared in it to any depth, its instances and what is declared in those, or none. -/
theorem exclusion_follows_declaration (hp : p.Connected) :
    (∀ f, ∃ n ≤ p.functions.size, ∃ r, p.OutermostIn n f r) ∧
    (∀ f, (∀ t, (p.get (p.source f)).receiver = some t → ∃ u, p.types.PointsTo t u) →
      ∀ d, p.Decomposes f d ↔ p.decompose f = d) ∧
    (∀ f g, (p.get f).parent = some g → p.decompose f = p.decompose g) ∧
    (∀ f o, (p.get f).origin = some o → p.decompose f = p.decompose o) ∧
    ∀ conf g f, p.Belongs g f → Check.isExcluded conf p f = Check.isExcluded conf p g := by
  refine ⟨fun f => ?_, fun f hreceiver d => ⟨Decomposes.eq, ?_⟩, fun f g => hp.decompose_parent,
    fun f o => hp.decompose_origin, fun conf g f h => ?_⟩
  · obtain ⟨n, r, hwalk⟩ := hp.parents f
    exact ⟨n, hwalk.endsIn.le_size fun _ _ => lt_size_of_parent, r, hwalk⟩
  · rintro rfl
    obtain ⟨n, r, hwalk⟩ := hp.parents f
    exact hwalk.decomposes hreceiver
  · rw [Check.isExcluded, Check.isExcluded, h.decompose_eq hp]

/-! ## A generic method -/

namespace Sample

/-- The method `0` of a generic type, with the function `1` declared in it and `2` in that. The
functions `3`, `4` and `5` are their instances. -/
def family : Program where
  types := { types := #[{ text := "*p.T", element := some 1 },
    { text := "p.T", declared := some ⟨some "p", "T"⟩ }] }
  functions := #[
    { text := "(*p.T).F", name := "F", path := some "p", receiver := some 0, typeParams := 1 },
    { text := "(*p.T).F$1", name := "F$1", path := some "p", parent := some 0 },
    { text := "(*p.T).F$1$1", name := "F$1$1", path := some "p", parent := some 1 },
    { text := "(*p.T[int]).F", name := "F", receiver := some 0, origin := some 0 },
    { text := "(*p.T[int]).F$1", name := "F$1", parent := some 3, origin := some 1 },
    { text := "(*p.T[int]).F$1$1", name := "F$1$1", parent := some 4, origin := some 2 }]

theorem lt_size_of_origin (h : (p.get f).origin = some o) : f < p.functions.size := by
  by_contra hf
  rw [get, Array.getElem?_eq_none (Nat.le_of_not_lt hf)] at h
  cases h

theorem family_connected : family.Connected where
  parents
    | 0 => ⟨0, 0, .self rfl⟩
    | 1 => ⟨1, 0, .outwards rfl (.self rfl)⟩
    | 2 => ⟨2, 0, .outwards rfl (.outwards rfl (.self rfl))⟩
    | 3 => ⟨0, 3, .self rfl⟩
    | 4 => ⟨1, 3, .outwards rfl (.self rfl)⟩
    | 5 => ⟨2, 3, .outwards rfl (.outwards rfl (.self rfl))⟩
    | f + 6 => ⟨0, f + 6, .self rfl⟩
  generic f o h := by
    have hgeneric : ∀ f < 6, ∀ o ∈ (family.get f).origin, (family.get o).origin = none := by
      decide
    exact hgeneric f (lt_size_of_origin h) o h
  inner f g o hparent horigin := by
    have hinner : ∀ f < 6, ∀ g ∈ (family.get f).parent, ∀ o ∈ (family.get f).origin,
        ∃ q ∈ (family.get g).origin, (family.get o).parent = some q := by decide
    exact hinner f (lt_size_of_parent hparent) g hparent o horigin
  outer f o hparent horigin := by
    have houter : ∀ f < 6, (family.get f).parent = none → ∀ o ∈ (family.get f).origin,
        (family.get o).parent = none := by decide
    exact houter f (lt_size_of_origin horigin) hparent o horigin

/-- A configuration that names the method excludes what is declared in its instance. -/
theorem family_follows_declaration :
    family.Connected ∧ family.Belongs 0 5 ∧ family.Decomposes 5 ("p", "T", "F") ∧
      Check.isExcluded { exclude := [{ name := .exactly "F" }] } family 5 = true ∧
      ∀ conf, Check.isExcluded conf family 5 = Check.isExcluded conf family 0 := by
  have hbelongs : family.Belongs 0 5 :=
    .inner (h := 4) rfl (.inner (h := 3) rfl (.instantiated rfl .self))
  obtain ⟨-, hdecomposes, -, -, hexcluded⟩ := exclusion_follows_declaration family_connected
  refine ⟨family_connected, hbelongs, ?_, by decide, fun conf => hexcluded conf 0 5 hbelongs⟩
  refine (hdecomposes 5 ?_ _).2 rfl
  rintro t ⟨⟩
  exact ⟨1, 1, .onwards rfl (.here rfl)⟩

end Sample

end LeakCheck.Ssa.Program
