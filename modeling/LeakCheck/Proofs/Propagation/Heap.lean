import LeakCheck.Propagation.Heap
import LeakCheck.Proofs.Fact.Semilattice

/-!
# Sets of facts are apart

Sets of facts are held by reference, so a change could show in a set that nobody meant to change.
Every command changes at most the set at one place, which `Heap.changed?` names
(`Heap.cell_after`), so after a run each set has gone through the changes of its own place and no
others (`Heap.cell_run`). A set that is made has a new place: what is done with it does not show in
the sets that it was made from, nor the other way round (`Heap.isolates`). Together with the laws of
sets of facts this is what the solver relies on (`Heap.semilattice_of_facts`).
-/

namespace LeakCheck.Propagation.Heap

/-! ## Membership -/

/-- The members of the set of a variable. -/
def members (h : Heap) (x : String) : Set Fact := (h.contents x).members

/-- The members that a new set has to have. -/
def Source.members (h : Heap) : Source → Set Fact
  | .listed facts => {f | f ∈ facts}
  | .bottom | .entry => ∅
  | .copy x => h.members x
  | .union x y | .merge x y => h.members x ∪ h.members y

theorem Source.members_make (h : Heap) (source : Source) :
    (source.make h).members = source.members h := by
  cases source with
  | listed facts => exact FactSet.members_ofList facts
  | bottom | entry => exact FactSet.members_empty
  | copy x => rfl
  | union x y | merge x y => exact FactSet.members_union _ _

/-- What a change does to a set. -/
def Change.onSet (s : FactSet) : Change → FactSet
  | .add f => s.insert f
  | .remove f => s.erase f

/-- What a change does to the members. -/
def Change.onMembers (facts : Set Fact) : Change → Set Fact
  | .add f => insert f facts
  | .remove f => facts \ {f}

theorem Change.members_onSet (s : FactSet) (c : Change) :
    (c.onSet s).members = c.onMembers s.members := by
  cases c with
  | add f => exact FactSet.members_insert s f
  | remove f => exact FactSet.members_erase s f

/-! ## One command -/

section
variable {h : Heap} {x y : String} {i j : Nat} {s : FactSet}

theorem value_eq_some (hi : h.ref x = some i) (hs : h.cells[i]? = some s) :
    h.value x = some s := by
  rw [value, hi, Option.bind_some, hs]

theorem contents_eq (hi : h.ref x = some i) (hs : h.cells[i]? = some s) : h.contents x = s := by
  rw [contents, value_eq_some hi hs]
  rfl

theorem exists_cell (hi : h.ref x = some i) : ∃ s, h.cells[i]? = some s :=
  ⟨_, List.getElem?_eq_getElem (h.made x i hi)⟩

/-- A change that is made through a variable changes the set at its place. -/
theorem after_change (hi : h.ref x = some i) (hs : h.cells[i]? = some s) (c : Change) :
    h.after (.change x c) = h.put i (c.onSet s) := by
  rw [after, step, value_eq_some hi hs]
  cases c with
  | add f | remove f =>
    simp only [Change.apply, FactSet.insertInto, FactSet.eraseFrom, Except.map, Option.map_some,
      replace, hi]
    rfl

/-- Without a set nothing is changed. -/
theorem after_change_of_none (hx : h.ref x = none) (c : Change) : h.after (.change x c) = h := by
  have hvalue : h.value x = none := by rw [value, hx, Option.bind_none]
  rw [after, step, hvalue]
  cases c with
  | add f => rfl
  | remove f =>
    simp only [Change.apply, FactSet.eraseFrom, Except.map, Option.map_none, replace, hx]

theorem cells_put (hs : h.cells[i]? = some s) (t : FactSet) :
    (h.put j t).cells[i]? = some (if j = i then t else s) := by
  obtain ⟨hlt, -⟩ := List.getElem?_eq_some_iff.1 hs
  rw [put, List.getElem?_set]
  split
  · next heq => rw [if_pos (heq ▸ hlt)]
  · exact hs

theorem contents_put_of_ne (hy : h.ref y ≠ some i) (t : FactSet) :
    (h.put i t).contents y = h.contents y := by
  have hvalue : (h.put i t).value y = h.value y := by
    rw [value, value, put]
    cases hj : h.ref y with
    | none => rfl
    | some j =>
      have hne : i ≠ j := fun heq => hy (heq ▸ hj)
      exact List.getElem?_set_ne hne
  rw [contents, contents, hvalue]

/-- A change shows through the variables that refer to the changed set, and only there. -/
theorem members_after_change (hi : h.ref x = some i) (c : Change) (y : String) :
    (h.after (.change x c)).members y =
      if h.ref y = some i then c.onMembers (h.members y) else h.members y := by
  obtain ⟨s, hs⟩ := exists_cell hi
  rw [after_change hi hs, members, members]
  split
  · next hy =>
    have hcell : (h.put i (c.onSet s)).cells[i]? = some (c.onSet s) := by
      rw [cells_put hs, if_pos rfl]
    have hput : (h.put i (c.onSet s)).contents y = c.onSet s := contents_eq hy hcell
    rw [hput, contents_eq hy hs, Change.members_onSet]
  · next hy => rw [contents_put_of_ne hy]

/-! ## Many commands -/

/-- The change that a command makes, and the place where it makes it. -/
def changed? (h : Heap) : Command → Option (Nat × Change)
  | .change x c => (h.ref x).map (·, c)
  | _ => none

/-- The changes that commands make, one after the other. -/
def changes (h : Heap) : List Command → List (Nat × Change)
  | [] => []
  | c :: rest => (h.changed? c).toList ++ (h.after c).changes rest

/-- A set after the changes of its place. -/
def replay (i : Nat) (changes : List (Nat × Change)) (s : FactSet) : FactSet :=
  (changes.filter (·.1 = i)).foldl (fun s c => c.2.onSet s) s

theorem replay_append (changes more : List (Nat × Change)) :
    replay i (changes ++ more) s = replay i more (replay i changes s) := by
  rw [replay, List.filter_append, List.foldl_append]
  rfl

theorem replay_eq_self {changes : List (Nat × Change)} (hi : ∀ c ∈ changes, c.1 ≠ i) :
    replay i changes s = s := by
  rw [replay, List.filter_eq_nil_iff.2 fun c hc => by simpa using hi c hc]
  rfl

/-- A command changes a set only by the change that it makes at its place. -/
theorem cell_after (hs : h.cells[i]? = some s) (c : Command) :
    (h.after c).cells[i]? = some (replay i (h.changed? c).toList s) := by
  cases c with
  | make x source =>
    obtain ⟨hlt, -⟩ := List.getElem?_eq_some_iff.1 hs
    exact (List.getElem?_append_left hlt).trans hs
  | share x y | clear x => exact hs
  | change x c =>
    cases hx : h.ref x with
    | none =>
      rw [after_change_of_none hx, changed?, hx]
      exact hs
    | some j =>
      obtain ⟨t, ht⟩ := exists_cell hx
      rw [after_change hx ht, cells_put hs, changed?, hx]
      by_cases hji : j = i
      · subst hji
        cases Option.some.inj (hs.symm.trans ht)
        simp [replay]
      · simp [replay, hji]

/-- **After commands a set has gone through the changes of its own place**, in their order. -/
theorem cell_run (commands : List Command) (hs : h.cells[i]? = some s) :
    (h.run commands).cells[i]? = some (replay i (h.changes commands) s) := by
  induction commands generalizing h s with
  | nil => exact hs
  | cons c rest ih =>
    rw [run, List.foldl_cons, ← run, ih (cell_after hs c), changes, replay_append]

theorem cell_run_of_unchanged {commands : List Command}
    (hi : ∀ c ∈ h.changes commands, c.1 ≠ i) (hs : h.cells[i]? = some s) :
    (h.run commands).cells[i]? = some s := by
  rw [cell_run commands hs, replay_eq_self hi]

end

/-! ## New sets -/

theorem ref_make (h : Heap) (x : String) (source : Source) (y : String) :
    (h.make x source).ref y = if y = x then some h.cells.length else h.ref y := rfl

theorem cells_make (h : Heap) (x : String) (source : Source) :
    (h.make x source).cells = h.cells ++ [source.make h] := rfl

/-- A set that is made is apart from all others. -/
structure Isolates (h : Heap) (x : String) (source : Source) : Prop where
  /-- It has the members that it is made from. -/
  members_eq : (h.make x source).members x = source.members h
  /-- The other variables keep theirs. -/
  members_other : ∀ y, y ≠ x → (h.make x source).members y = h.members y
  /-- No other variable refers to it. -/
  fresh : ∀ y, y ≠ x → (h.make x source).ref y ≠ (h.make x source).ref x
  /-- Whatever follows, under whatever names, the sets that were there keep their members if only
  the new set is changed. -/
  others_kept : ∀ later : List Command,
    (∀ c ∈ (h.make x source).changes later, (h.make x source).ref x = some c.1) →
    ∀ (i : Nat) (s : FactSet), h.cells[i]? = some s →
      ((h.make x source).run later).cells[i]? = some s
  /-- Whatever follows, the new set keeps its members if only other sets are changed. -/
  itself_kept : ∀ later : List Command,
    (∀ c ∈ (h.make x source).changes later, (h.make x source).ref x ≠ some c.1) →
    ∀ i, (h.make x source).ref x = some i →
      ((h.make x source).run later).cells[i]? = some (source.make h)

theorem isolates (h : Heap) (x : String) (source : Source) : h.Isolates x source := by
  have hnew : (h.make x source).ref x = some h.cells.length := by rw [ref_make, if_pos rfl]
  have hcell : (h.make x source).cells[h.cells.length]? = some (source.make h) := by
    rw [cells_make, List.getElem?_append_right (Nat.le_refl _), Nat.sub_self]
    rfl
  have hold : ∀ {i : Nat} {s : FactSet}, h.cells[i]? = some s →
      (h.make x source).cells[i]? = some s := by
    intro i s hs
    exact cell_after hs (.make x source)
  have hne : ∀ {i : Nat} {s : FactSet}, h.cells[i]? = some s → i ≠ h.cells.length := by
    intro i s hs
    exact ((List.getElem?_eq_some_iff.1 hs).1).ne
  refine ⟨?_, ?_, ?_, ?_, ?_⟩
  · rw [members, contents_eq hnew hcell, Source.members_make]
  · intro y hy
    have href : (h.make x source).ref y = h.ref y := by rw [ref_make, if_neg hy]
    rw [members, members]
    cases hi : h.ref y with
    | none => rw [contents, contents, value, value, href, hi, Option.bind_none, Option.bind_none]
    | some i =>
      obtain ⟨s, hs⟩ := exists_cell hi
      rw [contents_eq hi hs, contents_eq (href.trans hi) (hold hs)]
  · intro y hy heq
    rw [ref_make, if_neg hy, hnew] at heq
    exact Nat.lt_irrefl _ (h.made y _ heq)
  · intro later hlater i s hs
    refine cell_run_of_unchanged ?_ (hold hs)
    intro c hc heq
    exact hne hs (heq ▸ Option.some.inj ((hlater c hc).symm.trans hnew))
  · intro later hlater i hi
    cases Option.some.inj (hnew.symm.trans hi)
    refine cell_run_of_unchanged ?_ hcell
    intro c hc heq
    exact hlater c hc (heq ▸ hnew)

/-- **Sets of facts form the join-semilattice that the solver assumes.** The laws hold of all sets,
missing ones included, with the first value of the solver and with the missing set as the set that
adds nothing. A change is seen through the variables that share the changed set and through no
others, and a set that is made shares with none. -/
theorem semilattice_of_facts :
    (∀ bottom : FactSet, bottom = Analysis.lattice.bottom ∨ bottom = FactSet.contents none →
      ∀ r s t : Option FactSet,
        FactSet.Laws bottom (FactSet.contents r) (FactSet.contents s) (FactSet.contents t)) ∧
    (∀ (h : Heap) (x : String) (source : Source), h.Isolates x source) ∧
    ∀ (h : Heap) (x : String) (c : Change) (y : String),
      (h.after (.change x c)).members y =
        if h.ref x ≠ none ∧ h.ref y = h.ref x then c.onMembers (h.members y) else h.members y := by
  refine ⟨?_, isolates, ?_⟩
  · intro bottom hbottom r s t
    refine FactSet.laws ?_ _ _ _
    rcases hbottom with rfl | rfl
    · exact FactSet.members_empty
    · exact FactSet.members_empty
  · intro h x c y
    cases hx : h.ref x with
    | none => rw [after_change_of_none hx, if_neg (fun hne => hne.1 rfl)]
    | some i => simp [members_after_change hx]

namespace Sample

/-- The fact that a variable holds a secret since a statement. -/
def since (n : Nat) : Fact := ⟨some ⟨n, "x", 0⟩, .inFrame default⟩

/-- A set with one fact. -/
def one : Heap := empty.after (.make "s" (.listed [since 0]))

/-- A copy of the set is shared, and then changed under both of its names. -/
def dealings : List Command :=
  [.share "d" "c", .change "d" (.add (since 1)), .change "c" (.remove (since 0))]

/-- All that is changed is the copy, which loses the fact that it had and gets another one. The set
that it was made from has its fact. -/
theorem copy_goes_its_own_way :
    (∀ c ∈ (one.make "c" (.copy "s")).changes dealings,
      (one.make "c" (.copy "s")).ref "c" = some c.1) ∧
    (((one.make "c" (.copy "s")).run dealings).contents "c").facts = [since 1] ∧
    ((one.make "c" (.copy "s")).run dealings).cells[0]? = some (.ofList [since 0]) := by
  have hcopy : ∀ c ∈ (one.make "c" (.copy "s")).changes dealings,
      (one.make "c" (.copy "s")).ref "c" = some c.1 := by decide
  refine ⟨hcopy, by decide, ?_⟩
  exact (semilattice_of_facts.2.1 one "c" (.copy "s")).others_kept dealings hcopy 0 _ rfl

end Sample

end LeakCheck.Propagation.Heap
