import LeakCheck.Proofs.Fact.Members
import LeakCheck.Proofs.Text.ByteOrder
import LeakCheck.Propagation.Transfer

/-!
# What a statement does to facts

`flow` scans the uses of a statement and collects what to end and what to establish. `has_flow` says
what comes out of that scan, in terms of what the statement is and not of the order of its uses: a
fact passes unless the statement overwrites its variable with a literal or a fresh secret, and the
statement establishes the fact about its variable iff it obtains a secret or copies a tainted
variable. Monotonicity and distributivity are read off that form.

`mem_escapingOrigins` does the same for the secrets that a statement lets escape.
-/

namespace LeakCheck.Propagation

/-! ## Shapes of statements -/

/-- A call of the secret operation. -/
def IsSecretCall (secret : String) (u : Value) : Prop :=
  ∃ method args, u = .staticCall method args ∧ Text.equalFold method secret = true

/-- A literal. -/
def IsLiteral (u : Value) : Prop := ∃ text, u = .constant text

/-- An assignment whose first variable is `v` and that uses the value `u`. -/
def Assigns (s : Statement) (v : Var) (u : Value) : Prop :=
  ∃ rest uses, s = .assign (v :: rest) uses ∧ u ∈ uses

/-- An assignment to `v` that uses a call of the secret operation. -/
def Obtains (secret : String) (s : Statement) (v : Var) : Prop :=
  ∃ u, Assigns s v u ∧ IsSecretCall secret u

/-- An assignment to `v` that uses a literal or a call of the secret operation. -/
def Overwrites (secret : String) (s : Statement) (v : Var) : Prop :=
  ∃ u, Assigns s v u ∧ (IsLiteral u ∨ IsSecretCall secret u)

/-- A statement that lets the variable `v` leave the procedure. -/
inductive LetsEscape : Statement → Var → Prop
  /-- `v` is given back. -/
  | result {results : List Value} {v : Var} (h : .read v ∈ results) :
      LetsEscape (.giveBack results) v
  /-- `v` is an argument of a virtual call whose result is dropped. -/
  | argument {method : String} {args : List Value} {v : Var} (h : .read v ∈ args) :
      LetsEscape (.invoke (.virtualCall method args)) v
  /-- `v` is an argument of a virtual call that an assignment uses. -/
  | used {defs : List Var} {uses args : List Value} {method : String} {v : Var}
      (hu : .virtualCall method args ∈ uses) (h : .read v ∈ args) :
      LetsEscape (.assign defs uses) v

/-- A statement defines a variable iff it is an assignment to it and it refers to something. -/
theorem defined?_eq_some {s : Statement} {v : Var} :
    defined? s = some v ↔ v.isValid = true ∧ ∃ rest uses, s = .assign (v :: rest) uses := by
  refine ⟨fun h => ?_, ?_⟩
  · unfold defined? at h
    split at h
    · next d rest uses =>
      split at h
      · next hd =>
        cases h
        exact ⟨hd, rest, uses, rfl⟩
      · cases h
    · cases h
  · rintro ⟨hv, rest, uses, rfl⟩
    simp [defined?, hv]

/-! ## The scan -/

section
variable (secret : String) (n : Vertex) (v : Var) (x : FactSet)

theorem Effect.has_clear_kill (e : Effect) (f : Fact) :
    (e.clear x v).kill.has f = true ↔ e.kill.has f = true ∨ x.has f = true ∧ f.var = v := by
  rw [Effect.clear, FactSet.has_foldl_insert, FactSet.mem_about]

/-- A use ends the facts about the variable iff it is a literal or a call of the secret
operation. -/
theorem Effect.has_use_kill (e : Effect) (u : Value) (f : Fact) :
    (e.use secret n v x u).kill.has f = true ↔
      e.kill.has f = true ∨
        (IsLiteral u ∨ IsSecretCall secret u) ∧ x.has f = true ∧ f.var = v := by
  cases u with
  | constant text => simp [Effect.use, Effect.has_clear_kill, IsLiteral]
  | staticCall method args =>
    by_cases hm : Text.equalFold method secret = true
    · simp [Effect.use, hm, Effect.has_clear_kill, IsLiteral, IsSecretCall]
    · simp [Effect.use, hm, IsLiteral, IsSecretCall]
  | read w =>
    by_cases hw : x.tainted w = true <;> simp [Effect.use, hw, IsLiteral, IsSecretCall]
  | absent | virtualCall | unknown => simp [Effect.use, IsLiteral, IsSecretCall]

/-- A use establishes the fact about the variable iff it is a call of the secret operation or a
tainted variable. The fact may be taken out on the way, but only to be put in again. -/
theorem Effect.has_use_gen (e : Effect) (u : Value) (he : ∀ f, e.gen.has f = true → f = ⟨n, v⟩)
    (f : Fact) :
    (e.use secret n v x u).gen.has f = true ↔
      e.gen.has f = true ∨
        f = ⟨n, v⟩ ∧ (IsSecretCall secret u ∨ ∃ w, u = .read w ∧ x.tainted w = true) := by
  cases u with
  | constant text => simp [Effect.use, Effect.clear, IsSecretCall]
  | staticCall method args =>
    by_cases hm : Text.equalFold method secret = true
    · simp only [Effect.use, hm, if_true, Effect.clear, FactSet.has_insert, FactSet.has_filter,
        IsSecretCall]
      constructor
      · rintro (⟨hold, -⟩ | hnew)
        · exact .inl hold
        · exact .inr ⟨hnew, .inl ⟨method, args, rfl, hm⟩⟩
      · rintro (hold | ⟨hnew, -⟩)
        · exact .inr (he f hold)
        · exact .inr hnew
    · simp [Effect.use, hm, IsSecretCall]
  | read w =>
    by_cases hw : x.tainted w = true
    · simp [Effect.use, hw, FactSet.has_insert]
    · simp [Effect.use, hw, IsSecretCall]
  | absent | virtualCall | unknown => simp [Effect.use, IsSecretCall]

/-- The scan ends the facts about the variable iff some use does. -/
theorem has_scan_kill (us : List Value) (e : Effect) (f : Fact) :
    (us.foldl (Effect.use secret n v x) e).kill.has f = true ↔
      e.kill.has f = true ∨
        (∃ u ∈ us, IsLiteral u ∨ IsSecretCall secret u) ∧ x.has f = true ∧ f.var = v := by
  induction us generalizing e with
  | nil => simp
  | cons u us ih =>
    simp only [List.foldl_cons, ih, Effect.has_use_kill, List.mem_cons, exists_eq_or_imp]
    rw [or_assoc, ← or_and_right]

/-- The scan establishes the fact about the variable iff some use does. -/
theorem has_scan_gen (us : List Value) (e : Effect) (he : ∀ f, e.gen.has f = true → f = ⟨n, v⟩)
    (f : Fact) :
    (us.foldl (Effect.use secret n v x) e).gen.has f = true ↔
      e.gen.has f = true ∨
        f = ⟨n, v⟩ ∧ ∃ u ∈ us, IsSecretCall secret u ∨ ∃ w, u = .read w ∧ x.tainted w = true := by
  induction us generalizing e with
  | nil => simp
  | cons u us ih =>
    have he' : ∀ f, (e.use secret n v x u).gen.has f = true → f = ⟨n, v⟩ := by
      intro f hf
      rcases (e.has_use_gen secret n v x u he f).1 hf with hold | ⟨hnew, -⟩
      · exact he f hold
      · exact hnew
    simp only [List.foldl_cons, ih _ he', e.has_use_gen secret n v x u he, List.mem_cons,
      exists_eq_or_imp]
    rw [or_assoc, ← and_or_left]

end

/-- What a statement establishes at its variable, when `x` enters it: a fresh secret or a copy of a
tainted variable. -/
def Establishes (secret : String) (s : Statement) (x : FactSet) (v : Var) : Prop :=
  Obtains secret s v ∨ ∃ w, Assigns s v (.read w) ∧ x.tainted w = true

/-- An assignment overwrites its first variable iff it uses a literal or a secret. -/
theorem overwrites_assign {secret : String} {v w : Var} {rest : List Var} {us : List Value} :
    Overwrites secret (.assign (v :: rest) us) w ↔
      w = v ∧ ∃ u ∈ us, IsLiteral u ∨ IsSecretCall secret u := by
  constructor
  · rintro ⟨u, ⟨rest', us', heq, hu⟩, h⟩
    cases heq
    exact ⟨rfl, u, hu, h⟩
  · rintro ⟨rfl, u, hu, h⟩
    exact ⟨u, ⟨rest, us, rfl, hu⟩, h⟩

/-- An assignment establishes its first variable iff it uses a secret or a tainted variable. -/
theorem establishes_assign {secret : String} {v w : Var} {rest : List Var} {us : List Value}
    {x : FactSet} :
    Establishes secret (.assign (v :: rest) us) x w ↔
      w = v ∧ ∃ u ∈ us, IsSecretCall secret u ∨ ∃ r, u = .read r ∧ x.tainted r = true := by
  constructor
  · rintro (⟨u, ⟨rest', us', heq, hu⟩, h⟩ | ⟨r, ⟨rest', us', heq, hu⟩, h⟩)
    · cases heq
      exact ⟨rfl, u, hu, .inl h⟩
    · cases heq
      exact ⟨rfl, _, hu, .inr ⟨r, rfl, h⟩⟩
  · rintro ⟨rfl, u, hu, h | ⟨r, rfl, h⟩⟩
    · exact .inl ⟨u, ⟨rest, us, rfl, hu⟩, h⟩
    · exact .inr ⟨r, ⟨rest, us, rfl, hu⟩, h⟩

/-- Only an assignment establishes something. -/
theorem Establishes.exists_assign {secret : String} {s : Statement} {x : FactSet} {v : Var}
    (h : Establishes secret s x v) :
    ∃ rest uses, s = .assign (v :: rest) uses := by
  rcases h with ⟨u, ⟨rest, uses, hs, -⟩, -⟩ | ⟨w, ⟨rest, uses, hs, -⟩, -⟩
  · exact ⟨rest, uses, hs⟩
  · exact ⟨rest, uses, hs⟩

/-- **What leaves a statement.** The facts that enter leave unless their variable is overwritten,
and the statement adds the fact that its variable holds a secret, if it establishes that. Statements
that assign to a variable that refers to nothing neither overwrite nor establish. -/
theorem has_flow (secret : String) (n : Vertex) (s : Statement) (x : FactSet) (f : Fact) :
    (flow secret n s x).has f = true ↔
      (x.has f = true ∧ ¬ (f.var.isValid = true ∧ Overwrites secret s f.var)) ∨
        f.origin = n ∧ f.var.isValid = true ∧ Establishes secret s x f.var := by
  simp only [flow, FactSet.has_union, FactSet.has_filter, Bool.not_eq_true']
  cases hd : defined? s with
  | none =>
    -- without a variable that refers to something nothing is scanned
    have hno : ∀ v rest uses, v.isValid = true → s ≠ .assign (v :: rest) uses := by
      intro v rest uses hv hs
      exact nomatch hd.symm.trans (defined?_eq_some.2 ⟨hv, rest, uses, hs⟩)
    have hover : ¬ (f.var.isValid = true ∧ Overwrites secret s f.var) := by
      rintro ⟨hv, u, ⟨rest, uses, hs, -⟩, -⟩
      exact hno _ rest uses hv hs
    have hest : ¬ (f.origin = n ∧ f.var.isValid = true ∧ Establishes secret s x f.var) := by
      rintro ⟨-, hv, he⟩
      obtain ⟨rest, uses, hs⟩ := he.exists_assign
      exact hno _ rest uses hv hs
    simp [effect, hd, hover, hest]
  | some v =>
    obtain ⟨hv, rest, us, rfl⟩ := defined?_eq_some.1 hd
    have hkill := has_scan_kill secret n v x us {} f
    have hgen := has_scan_gen secret n v x us {} (by simp) f
    have hvalid : f.var = v → f.var.isValid = true := fun h => h ▸ hv
    have hfact : f = ⟨n, v⟩ ↔ f.origin = n ∧ f.var = v := by
      obtain ⟨origin, var⟩ := f
      simp
    simp only [effect, hd, uses, ← Bool.not_eq_true, hkill, hgen, overwrites_assign,
      establishes_assign, hfact]
    constructor
    · rintro (⟨hx, hnot⟩ | hnone | ⟨⟨horigin, hvar⟩, hest⟩)
      · exact .inl ⟨hx, fun ⟨_, hvar, hover⟩ => hnot (.inr ⟨hover, hx, hvar⟩)⟩
      · cases hnone
      · exact .inr ⟨horigin, hvalid hvar, hvar, hest⟩
    · rintro (⟨hx, hnot⟩ | ⟨horigin, -, hvar, hest⟩)
      · refine .inl ⟨hx, ?_⟩
        rintro (hnone | ⟨hover, -, hvar⟩)
        · cases hnone
        · exact hnot ⟨hvalid hvar, hvar, hover⟩
      · exact .inr (.inr ⟨⟨horigin, hvar⟩, hest⟩)

/-! ## Consequences -/

/-- More facts taint more variables. -/
theorem tainted_mono {x y : FactSet} (h : x.members ⊆ y.members) {v : Var}
    (hv : x.tainted v = true) : y.tainted v = true := by
  obtain ⟨f, hf, hfv⟩ := FactSet.tainted_iff.1 hv
  exact FactSet.tainted_iff.2 ⟨f, h hf, hfv⟩

/-- The more facts enter a statement, the more leave it. -/
theorem flow_mono {x y : FactSet} (h : x.members ⊆ y.members) (secret : String) (n : Vertex)
    (s : Statement) : (flow secret n s x).members ⊆ (flow secret n s y).members := by
  intro f hf
  rw [FactSet.mem_members, has_flow] at hf ⊢
  rcases hf with ⟨hx, hnot⟩ | ⟨horigin, hv, hest⟩
  · exact .inl ⟨h hx, hnot⟩
  · refine .inr ⟨horigin, hv, ?_⟩
    rcases hest with hobt | ⟨w, hcopy, hw⟩
    · exact .inl hobt
    · exact .inr ⟨w, hcopy, tainted_mono h hw⟩

/-- **A fact leaves a statement because of at most one fact that enters it.** This is
distributivity: what leaves can be computed for each entering fact on its own. -/
theorem has_flow_of_one {secret : String} {n : Vertex} {s : Statement} {x : FactSet} {f : Fact}
    (h : (flow secret n s x).has f = true) :
    (∀ y, (flow secret n s y).has f = true) ∨
      ∃ e, x.has e = true ∧ ∀ y : FactSet, y.has e = true → (flow secret n s y).has f = true := by
  rcases (has_flow secret n s x f).1 h with ⟨hx, hnot⟩ | ⟨horigin, hv, hobt | ⟨w, hcopy, hw⟩⟩
  · exact .inr ⟨f, hx, fun y hy => (has_flow secret n s y f).2 (.inl ⟨hy, hnot⟩)⟩
  · exact .inl fun y => (has_flow secret n s y f).2 (.inr ⟨horigin, hv, .inl hobt⟩)
  · obtain ⟨e, he, hew⟩ := FactSet.tainted_iff.1 hw
    refine .inr ⟨e, he, fun y hy => (has_flow secret n s y f).2 (.inr ⟨horigin, hv, .inr ?_⟩)⟩
    exact ⟨w, hcopy, FactSet.tainted_iff.2 ⟨e, hy, hew⟩⟩

/-! ## Escaping secrets -/

/-- The variables among values are those that are read. -/
theorem mem_varsAmong {values : List Value} {v : Var} :
    v ∈ varsAmong values ↔ .read v ∈ values := by
  rw [varsAmong, List.mem_filterMap]
  constructor
  · rintro ⟨u, hu, h⟩
    split at h
    · cases h
      exact hu
    · cases h
  · exact fun h => ⟨_, h, rfl⟩

/-- A used value lets the arguments of a virtual call escape. -/
theorem mem_escapingArguments {u : Value} {v : Var} :
    v ∈ escapingArguments u ↔ ∃ method args, u = .virtualCall method args ∧ .read v ∈ args := by
  refine ⟨fun h => ?_, ?_⟩
  · unfold escapingArguments at h
    split at h
    · next method args => exact ⟨method, args, rfl, mem_varsAmong.1 h⟩
    · cases h
  · rintro ⟨method, args, rfl, h⟩
    exact mem_varsAmong.2 h

/-- The variables that a statement lets escape are found. -/
theorem mem_escaping {s : Statement} {v : Var} : v ∈ escaping s ↔ LetsEscape s v := by
  cases s with
  | absent | other =>
    exact ⟨fun h => (nomatch h), fun h => (nomatch h)⟩
  | giveBack results =>
    rw [escaping, mem_varsAmong]
    refine ⟨.result, fun h => ?_⟩
    cases h with
    | result h => exact h
  | invoke call =>
    show v ∈ [call].flatMap escapingArguments ↔ _
    rw [List.flatMap_singleton, mem_escapingArguments]
    constructor
    · rintro ⟨method, args, rfl, h⟩
      exact .argument h
    · intro h
      cases h with
      | argument h => exact ⟨_, _, rfl, h⟩
  | assign defs us =>
    show v ∈ us.flatMap escapingArguments ↔ _
    rw [List.mem_flatMap]
    constructor
    · rintro ⟨u, hu, h⟩
      obtain ⟨method, args, rfl, hread⟩ := mem_escapingArguments.1 h
      exact .used hu hread
    · intro h
      cases h with
      | used hu h => exact ⟨_, hu, mem_escapingArguments.2 ⟨_, _, rfl, h⟩⟩

/-- **The secrets that escape** are those of the facts that enter about a variable that refers to
something and that the statement lets escape. -/
theorem mem_escapingOrigins {s : Statement} {x : FactSet} {origin : Vertex} :
    origin ∈ escapingOrigins s x ↔
      ∃ v, v.isValid = true ∧ LetsEscape s v ∧ x.has ⟨origin, v⟩ = true := by
  simp only [escapingOrigins, List.mem_flatMap, List.mem_filter, List.mem_map, Text.mem_sortByText,
    FactSet.mem_about, mem_escaping]
  constructor
  · rintro ⟨v, ⟨hesc, hv⟩, f, ⟨hf, rfl⟩, rfl⟩
    exact ⟨f.var, hv, hesc, hf⟩
  · rintro ⟨v, hv, hesc, hf⟩
    exact ⟨v, ⟨hesc, hv⟩, ⟨origin, v⟩, ⟨hf, rfl⟩, rfl⟩

end LeakCheck.Propagation
