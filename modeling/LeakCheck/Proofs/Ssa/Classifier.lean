import LeakCheck.Proofs.Ssa.Walk
import LeakCheck.Ssa.Flow

/-!
# The answers of a classifier

A classifier is asked for the statements of nodes, of any functions and in any order. All that it
remembers are the owners of the fields it has met, and it only adds to them. So an answer that was
given is the answer ever after (`Classifier.Settles.stays`), and what is said at any time is what is
said in the end (`Program.answers_eq_map`). It makes no difference then whether answers are kept
(`Keeping.Faithful.answers_eq`), and a field has one variable, wherever it is accessed
(`Program.Accesses.given?_eq`). The order of the questions decides about the names of owners only
(`Classifier.Settles.alike`).
-/

namespace LeakCheck

/-! ## Statements without the names of owners -/

/-- A slot without the name of the type that a field was first met in. -/
def Slot.unowned : Slot → Slot
  | .field object _ name => .field object "" name
  | slot => slot

/-- A variable without the name of an owner. -/
def Var.unowned (v : Var) : Var := ⟨v.scope, v.slot.map Slot.unowned⟩

/-- A value without the name of an owner. The arguments of a call are kept as they are. -/
def Value.unowned : Value → Value
  | .read v => .read v.unowned
  | value => value

/-- A statement without the names of owners. What a call passes and what a function hands to its
caller is kept as it is. -/
def Statement.unowned : Statement → Statement
  | .assign defs uses => .assign (defs.map Var.unowned) (uses.map Value.unowned)
  | s => s

theorem Var.isValid_unowned (v : Var) : v.unowned.isValid = v.isValid := by
  simp [isValid, unowned, isLocal, isField]

namespace Ssa

/-! ## The fields that types have -/

namespace Types

variable {ts : Types} {t s : Nat}

/-- `t` points to `s`, over any number of pointers, and `s` is not a pointer. -/
def PointsTo (ts : Types) (t s : Nat) : Prop := ∃ n, EndsIn (fun t => (ts.get t).element) n t s

/-- A place in the struct that a type points to or is, and the field there. -/
def Selects (ts : Types) (type index object : Nat) : Prop :=
  ∃ struct fields, ts.PointsTo type struct ∧ (ts.get struct).fields = some fields ∧
    fields[index]? = some object

theorem lt_size_of_element {e : Nat} (h : (ts.get t).element = some e) : t < ts.types.size := by
  by_contra ht
  rw [get, Array.getElem?_eq_none (Nat.le_of_not_lt ht)] at h
  cases h

theorem PointsTo.dereference_eq (h : ts.PointsTo t s) : ts.dereference t = s := by
  obtain ⟨n, hwalk⟩ := h
  refine hwalk.walk_size (fun fuel t ht => ?_) (fun fuel t e ht => ?_)
    (fun _ _ => lt_size_of_element)
  · cases fuel with
    | zero => rfl
    | succ fuel => simp only [follow, ht]
  · simp only [follow, ht]

theorem Selects.field?_eq {type index object : Nat} (h : ts.Selects type index object) :
    ts.field? type index = some object := by
  obtain ⟨struct, fields, hpoints, hfields, hobject⟩ := h
  rw [field?, hpoints.dereference_eq, hfields, Option.bind_some, hobject]

end Types

/-! ## What a classifier remembers -/

namespace Classifier

variable {α α' β β' : Type} {e : α → β} {e' : α' → β'} {φ : Classifier → α × Classifier}
  {c c' c'' : Classifier}

/-- The owner that a field is shown under. -/
def ownerOf (c : Classifier) (object : Nat) : String := (c.owners.lookup object).getD ""

/-- All that `c` has met, `c'` has met under the same owners. -/
def Within (c c' : Classifier) : Prop :=
  ∀ object owner, c.owners.lookup object = some owner → c'.owners.lookup object = some owner

theorem Within.refl (c : Classifier) : c.Within c := fun _ _ h => h

theorem Within.trans (h : c.Within c') (h' : c'.Within c'') : c.Within c'' :=
  fun object owner hc => h' object owner (h object owner hc)

/-- An answer that a classifier settles: it only adds to what the classifier has met, it is the
answer of every classifier that has met as much, and `e` of it is the same for all classifiers. -/
structure Settles (e : α → β) (φ : Classifier → α × Classifier) : Prop where
  grows (c : Classifier) : c.Within (φ c).2
  stays {c c' : Classifier} (h : (φ c).2.Within c') : φ c' = ((φ c).1, c')
  alike (c c' : Classifier) : e (φ c).1 = e (φ c').1

theorem Settles.pure (e : α → β) (a : α) : Settles e fun c => (a, c) :=
  ⟨Within.refl, fun _ => rfl, fun _ _ => rfl⟩

theorem Settles.map (h : Settles e φ) {g : α → α'} (hg : ∀ a b, e a = e b → e' (g a) = e' (g b)) :
    Settles e' fun c => (g (φ c).1, (φ c).2) where
  grows := h.grows
  stays hc := by rw [h.stays hc]
  alike c c' := hg _ _ (h.alike c c')

/-- An answer that depends on whether another one is there. -/
theorem Settles.elim {φ : Classifier → Option α × Classifier} (h : Settles (Option.map e) φ)
    (a : α') {g : α → α'} (hg : ∀ a b, e a = e b → e' (g a) = e' (g b)) :
    Settles e' fun c => ((φ c).1.elim a g, (φ c).2) := by
  refine h.map (g := fun v => v.elim a g) fun v w hvw => ?_
  cases v with
  | none =>
    cases w with
    | none => rfl
    | some w => cases hvw
  | some v =>
    cases w with
    | none => cases hvw
    | some w => exact hg v w (Option.some.inj hvw)

theorem Settles.congr {ψ : Classifier → α × Classifier} (h : Settles e φ) (hψ : ∀ c, ψ c = φ c) :
    Settles e ψ := by
  rwa [funext hψ]

theorem lookup_meet (c : Classifier) (object : Nat) (owner : String) :
    (c.meet object owner).2.owners.lookup object = some (c.meet object owner).1 := by
  unfold meet
  split
  · next known h => exact h
  · next h => simp [List.lookup_append, h]

theorem settles_meet (object : Nat) (owner : String) :
    Settles (fun _ => ()) fun c => c.meet object owner where
  grows c := by
    unfold meet
    split
    · exact .refl c
    · intro o known h
      simp [List.lookup_append, h]
  stays {c c'} h := by
    have hknown := h _ _ (c.lookup_meet object owner)
    rw [meet, hknown]
  alike _ _ := rfl

theorem settles_fieldVar (ts : Types) (type index : Nat) :
    Settles Var.unowned fun c => c.fieldVar ts type index := by
  cases hfield : ts.field? type index with
  | none => exact (Settles.pure _ {}).congr fun c => by rw [fieldVar, hfield]
  | some object =>
    refine ((settles_meet object (ts.ownerName type)).map
      (g := fun owner => .ofField (.field object owner (ts.fields[object]?.getD "")))
      fun _ _ _ => rfl).congr fun c => ?_
    rw [fieldVar, hfield]

theorem settles_addressed? (ts : Types) (f : Function) (address : Nat) :
    Settles (Option.map Var.unowned) fun c => c.addressed? ts f address := by
  by_cases hkind : (f.value address).kind = .global
  · exact (Settles.pure _ _).congr fun c => by rw [addressed?, if_pos hkind]
  · simp only [addressed?, if_neg hkind]
    split
    · exact .pure _ _
    · next type index _ =>
      refine (settles_fieldVar ts type index).map (g := fun v => if v.isValid then some v else none)
        fun v w h => ?_
      have hvalid : v.isValid = w.isValid := by
        rw [← v.isValid_unowned, h, w.isValid_unowned]
      simp only [hvalid]
      split <;> simp [h]
    · exact .pure _ _

theorem unowned_define (f : Function) (i : Instr) {v w : Value} (h : v.unowned = w.unowned) :
    (f.define i [v]).unowned = (f.define i [w]).unowned := by
  unfold Function.define
  cases i.result with
  | none => rfl
  | some r => simp only [Statement.unowned, List.map_cons, List.map_nil, h]

theorem settles_classify (ts : Types) (f : Function) (i : Instr) :
    Settles Statement.unowned fun c => c.classify ts f i := by
  unfold classify
  split
  case h_2 address value _ =>
    refine ((settles_addressed? ts f address).elim .other
      (g := fun v => .assign [v] [f.operand value]) fun v w h => ?_).congr fun c => ?_
    · simp only [Statement.unowned, List.map_cons, List.map_nil, h]
    · rcases c.addressed? ts f address with ⟨_ | v, d⟩ <;> rfl
  case h_3 operand _ =>
    refine ((settles_addressed? ts f operand).elim (f.define i [.unknown "load"])
      (g := fun v => f.define i [.read v])
      fun v w h => unowned_define f i (congrArg Value.read h)).congr fun c => ?_
    rcases c.addressed? ts f operand with ⟨_ | v, d⟩ <;> rfl
  case h_5 type index _ =>
    exact (settles_fieldVar ts type index).map (g := fun v => f.define i [.read v])
      fun v w h => unowned_define f i (congrArg Value.read h)
  -- all other instructions have one statement for all classifiers
  all_goals exact .pure _ _

end Classifier

/-- The statement of a node is the one of its instruction. -/
theorem Function.statementIn_statements (ts : Types) (f : Function) (g : Graph) (n : Vertex) :
    statementIn (f.statements ts g) n =
      ((f.instrAt? n).map fun i => ((f.classifier ts g).classify ts f i).1).getD .other := by
  cases n with
  | none => rfl
  | some n =>
    simp only [statementIn, statements, instrAt?, Option.bind_some, List.getElem?_toArray,
      List.getElem?_map]

/-! ## Sequences of questions -/

/-- A question to a classifier: a node of a function. -/
structure Query where
  /-- The function. -/
  function : Nat
  /-- The node. -/
  node : Vertex
  deriving DecidableEq

namespace Program

variable {p : Program} {q : Query} {qs : List Query} {c : Classifier}

/-- The instruction that a question is about. -/
def instrOf? (p : Program) (q : Query) : Option Instr := (p.get q.function).instrAt? q.node

/-- The statement of a node. A node of another kind is a statement that does not matter. -/
def ask (p : Program) (c : Classifier) (q : Query) : Statement × Classifier :=
  match p.instrOf? q with
  | some i => c.classify p.types (p.get q.function) i
  | none => (.other, c)

/-- The answers to questions that are asked one after the other. -/
def answers (p : Program) (c : Classifier) : List Query → List Statement
  | [] => []
  | q :: rest => (p.ask c q).1 :: p.answers (p.ask c q).2 rest

/-- The classifier that has answered all questions. -/
def after (p : Program) (c : Classifier) : List Query → Classifier
  | [] => c
  | q :: rest => p.after (p.ask c q).2 rest

theorem settles_ask (p : Program) (q : Query) :
    Classifier.Settles Statement.unowned fun c => p.ask c q := by
  unfold ask
  split
  · exact Classifier.settles_classify ..
  · exact .pure _ _

theorem within_after (p : Program) (c : Classifier) (qs : List Query) :
    c.Within (p.after c qs) := by
  induction qs generalizing c with
  | nil => exact .refl c
  | cons q rest ih => exact ((p.settles_ask q).grows c).trans (ih _)

/-- What was answered first is answered in the end, and nothing new is met. -/
theorem ask_after_cons (p : Program) (c : Classifier) (q : Query) (rest : List Query) :
    p.ask (p.after c (q :: rest)) q = ((p.ask c q).1, p.after c (q :: rest)) :=
  (p.settles_ask q).stays (p.within_after (p.ask c q).2 rest)

theorem ask_after_snd (hq : q ∈ qs) : (p.ask (p.after c qs) q).2 = p.after c qs := by
  induction qs generalizing c with
  | nil => cases hq
  | cons r rest ih =>
    rcases List.mem_cons.1 hq with rfl | hq
    · rw [ask_after_cons]
    · exact ih hq

/-- **What a classifier says at any time is what it says in the end.** -/
theorem answers_eq_map (p : Program) (c : Classifier) (qs : List Query) :
    p.answers c qs = qs.map fun q => (p.ask (p.after c qs) q).1 := by
  induction qs generalizing c with
  | nil => rfl
  | cons q rest ih => rw [answers, List.map_cons, ask_after_cons, ih, after]

end Program

/-- A classifier that keeps its answers. -/
structure Keeping where
  /-- The answers. -/
  kept : List (Query × Statement) := []
  /-- What it has met. -/
  classifier : Classifier := {}

namespace Keeping

variable {p : Program} {k : Keeping}

/-- The kept answer to a question, or one that is given now and kept. -/
def ask (p : Program) (k : Keeping) (q : Query) : Statement × Keeping :=
  match k.kept.lookup q with
  | some s => (s, k)
  | none =>
    let (s, c) := p.ask k.classifier q
    (s, ⟨(q, s) :: k.kept, c⟩)

/-- The answers to questions that are asked one after the other. -/
def answers (p : Program) (k : Keeping) : List Query → List Statement
  | [] => []
  | q :: rest => (k.ask p q).1 :: (k.ask p q).2.answers p rest

/-- What is kept is what would be answered, with nothing new met. -/
def Faithful (p : Program) (k : Keeping) : Prop :=
  ∀ q s, k.kept.lookup q = some s → p.ask k.classifier q = (s, k.classifier)

theorem Faithful.ask_eq (h : k.Faithful p) (q : Query) :
    (k.ask p q).1 = (p.ask k.classifier q).1 ∧
      (k.ask p q).2.classifier = (p.ask k.classifier q).2 := by
  unfold ask
  split
  · next s hs =>
    rw [h q s hs]
    exact ⟨rfl, rfl⟩
  · exact ⟨rfl, rfl⟩

theorem Faithful.ask (h : k.Faithful p) (q : Query) : (k.ask p q).2.Faithful p := by
  unfold Keeping.ask
  split
  · exact h
  · intro r s hs
    rw [List.lookup_cons] at hs
    split at hs
    · next hr =>
      cases hs
      rw [eq_of_beq hr]
      exact (p.settles_ask q).stays (.refl _)
    · -- an answer that was kept before is not changed by what is new now
      have hr := h r s hs
      have hwithin : (p.ask k.classifier r).2.Within (p.ask k.classifier q).2 := by
        rw [hr]
        exact (p.settles_ask q).grows k.classifier
      have hstays := (p.settles_ask r).stays hwithin
      rwa [hr] at hstays

/-- **Keeping the answers makes no difference.** -/
theorem Faithful.answers_eq (h : k.Faithful p) (qs : List Query) :
    k.answers p qs = p.answers k.classifier qs := by
  induction qs generalizing k with
  | nil => rfl
  | cons q rest ih => rw [answers, Program.answers, ih (h.ask q), (h.ask_eq q).1, (h.ask_eq q).2]

end Keeping

/-! ## Accesses to variables -/

/-- What a load, a store or the selection of a field accesses. -/
inductive Target where
  /-- A field of a struct. -/
  | field (object : Nat)
  /-- A variable of a package, by its number in a function. -/
  | package (function value : Nat)
  /-- A variable that a function made. -/
  | frame (function value : Nat)

/-- The variable that an access is given: the one that a store defines, and the one that a load or
the selection of a field reads. -/
def Operation.given? : Operation → Statement → Option Var
  | .store .., .assign (v :: _) _ => some v
  | .unary .., .assign _ (.read v :: _) => some v
  | .field .., .assign _ (.read v :: _) => some v
  | _, _ => none

namespace Program

variable {p : Program} {q : Query} {qs : List Query} {c : Classifier}

/-- What an address of a function leads to. -/
inductive Addresses (p : Program) (f address : Nat) : Target → Prop
  | package (h : ((p.get f).value address).kind = .global) :
      Addresses p f address (.package f address)
  | frame {d : Instr} {comment : String} {uses : List Nat}
      (hkind : ((p.get f).value address).kind ≠ .global)
      (hd : (p.get f).definition? address = some d) (h : d.operation = .alloc comment uses) :
      Addresses p f address (.frame f address)
  | field {d : Instr} {type index object : Nat}
      (hkind : ((p.get f).value address).kind ≠ .global)
      (hd : (p.get f).definition? address = some d) (h : d.operation = .fieldAddress type index)
      (hobject : p.types.Selects type index object) : Addresses p f address (.field object)

/-- What an instruction of a function accesses. -/
inductive Accesses (p : Program) (f : Nat) (i : Instr) : Target → Prop
  | store {address value : Nat} {t : Target} (h : i.operation = .store address value)
      (ht : p.Addresses f address t) : Accesses p f i t
  | load {address r : Nat} {t : Target} (h : i.operation = .unary "*" address)
      (hr : i.result = some r) (ht : p.Addresses f address t) : Accesses p f i t
  | select {type index object r : Nat} (h : i.operation = .field type index)
      (hr : i.result = some r) (hobject : p.types.Selects type index object) :
      Accesses p f i (.field object)

/-- The variable of a target, when fields are shown under these owners. -/
def variableOf (p : Program) (owner : Nat → String) : Target → Var
  | .field object => .ofField (.field object (owner object) (p.types.fields[object]?.getD ""))
  | .package f v => .ofField (.value v ((p.get f).value v).name)
  | .frame f v => (p.get f).localVar v

theorem variableOf_field_eq_iff {owner : Nat → String} {object : Nat} {t : Target} :
    p.variableOf owner (.field object) = p.variableOf owner t ↔ t = .field object := by
  cases t with
  | field o =>
    refine ⟨fun h => ?_, fun h => ?_⟩
    · simp only [variableOf, Var.ofField, Var.mk.injEq, Option.some.injEq, Slot.field.injEq] at h
      rw [h.2.1]
    · rw [h]
  | package f v => simp [variableOf, Var.ofField]
  | frame f v => simp [variableOf, Var.ofField, Function.localVar, Var.inFrame]

theorem variableOf_field_ne_value {owner : Nat → String} {object : Nat} (n : Nat) (name : String) :
    p.variableOf owner (.field object) ≠ .inFrame (.value n name) ∧
      p.variableOf owner (.field object) ≠ .ofField (.value n name) := by
  simp [variableOf, Var.ofField, Var.inFrame]

theorem fieldVar_of_selects (c : Classifier) {type index object : Nat}
    (h : p.types.Selects type index object) :
    (c.fieldVar p.types type index).1 =
      p.variableOf (c.fieldVar p.types type index).2.ownerOf (.field object) := by
  have hmet := c.lookup_meet object (p.types.ownerName type)
  simp only [Classifier.fieldVar, h.field?_eq, variableOf, Classifier.ownerOf, hmet,
    Option.getD_some]

theorem Addresses.addressed?_eq (c : Classifier) {f address : Nat} {t : Target}
    (h : p.Addresses f address t) :
    (c.addressed? p.types (p.get f) address).1 =
      some (p.variableOf (c.addressed? p.types (p.get f) address).2.ownerOf t) := by
  cases h with
  | package h => simp only [Classifier.addressed?, if_pos h, variableOf]
  | frame hkind hd h =>
    simp only [Classifier.addressed?, if_neg hkind, hd, Option.map_some, h, variableOf]
  | field hkind hd h hobject =>
    simp only [Classifier.addressed?, if_neg hkind, hd, Option.map_some, h,
      fieldVar_of_selects c hobject]
    rfl

/-- The variable that an access is given is the one of its target. -/
theorem Accesses.given?_eq (c : Classifier) {f : Nat} {i : Instr} {t : Target}
    (h : p.Accesses f i t) :
    i.operation.given? (c.classify p.types (p.get f) i).1 =
      some (p.variableOf (c.classify p.types (p.get f) i).2.ownerOf t) := by
  cases h with
  | @store address value _ h ht =>
    have hv := ht.addressed?_eq c
    simp only [Classifier.classify, h]
    generalize c.addressed? p.types (p.get f) address = a at hv ⊢
    obtain ⟨_ | v, d⟩ := a
    · cases hv
    · exact hv
  | @load address r _ h hr ht =>
    have hv := ht.addressed?_eq c
    simp only [Classifier.classify, h, Function.define, hr]
    generalize c.addressed? p.types (p.get f) address = a at hv ⊢
    obtain ⟨_ | v, d⟩ := a
    · cases hv
    · exact hv
  | select h hr hobject =>
    simp only [Classifier.classify, h, Function.define, hr]
    exact congrArg some (fieldVar_of_selects c hobject)

/-- The classifier of a function is the one that was asked for the nodes that can be reached. -/
theorem after_map (p : Program) (f : Nat) (c : Classifier) (ns : List Vertex) :
    p.after c (ns.map (Query.mk f)) =
      (c.classifyAll p.types (p.get f) (ns.filterMap (p.get f).instrAt?)).2 := by
  induction ns generalizing c with
  | nil => rfl
  | cons n rest ih =>
    rw [List.map_cons, after, ih, ask, instrOf?]
    cases hi : (p.get f).instrAt? n with
    | none => rw [List.filterMap_cons_none hi]
    | some i => rw [List.filterMap_cons_some hi, Classifier.classifyAll]

/-- The statements that the analysis of a function works with are answers of a classifier. -/
theorem statementIn_eq_ask (p : Program) (f : Nat) (g : Graph) (n : Vertex) :
    Function.statementIn ((p.get f).statements p.types g) n =
      (p.ask (p.after {} (g.reachable.map (Query.mk f))) ⟨f, n⟩).1 := by
  rw [after_map, Function.statementIn_statements, ask, instrOf?, Function.classifier]
  cases (p.get f).instrAt? n with
  | none => rfl
  | some i => rfl

/-- **The answers of a classifier are coherent, whatever it is asked.** Every question has one
answer, whenever it is asked, and it is the same whether answers are kept or not. An access to a
field is given a variable that is the one of another access iff that is to the same field, over
whatever types and pointers; it is neither a value of a function nor a variable of a package.
Another order of questions gives the same answers, up to the names of the owners of fields. The
statements that a function is analysed with are such answers. -/
theorem answers_coherent (p : Program) (qs : List Query) :
    ∃ answer : Query → Statement,
      p.answers {} qs = qs.map answer ∧ Keeping.answers p {} qs = qs.map answer ∧
      (∀ q ∈ qs, ∀ r ∈ qs, ∀ i j object t, p.instrOf? q = some i → p.instrOf? r = some j →
        p.Accesses q.function i (.field object) → p.Accesses r.function j t →
        ∃ v w, i.operation.given? (answer q) = some v ∧ j.operation.given? (answer r) = some w ∧
          (v = w ↔ t = .field object) ∧
          ∀ n name, v ≠ .inFrame (.value n name) ∧ v ≠ .ofField (.value n name)) ∧
      (∀ qs' answer', p.answers {} qs' = qs'.map answer' →
        ∀ q ∈ qs, q ∈ qs' → (answer q).unowned = (answer' q).unowned) ∧
      ∀ f g, qs = g.reachable.map (Query.mk f) → ∀ n,
        Function.statementIn ((p.get f).statements p.types g) n = answer ⟨f, n⟩ := by
  have hanswers := p.answers_eq_map {} qs
  have hgiven : ∀ q ∈ qs, ∀ i t, p.instrOf? q = some i → p.Accesses q.function i t →
      i.operation.given? (p.ask (p.after {} qs) q).1 =
        some (p.variableOf (p.after {} qs).ownerOf t) := by
    intro q hq i t hi ht
    have hask := ask_after_snd (p := p) (c := {}) hq
    simp only [ask, hi] at hask ⊢
    rw [ht.given?_eq, hask]
  refine ⟨fun q => (p.ask (p.after {} qs) q).1, hanswers, ?_, ?_, ?_, ?_⟩
  · have hkept : Keeping.Faithful p {} := fun q s h => nomatch h
    rw [hkept.answers_eq, hanswers]
  · intro q hq r hr i j object t hi hj hfield ht
    exact ⟨_, _, hgiven q hq i _ hi hfield, hgiven r hr j t hj ht, variableOf_field_eq_iff,
      variableOf_field_ne_value⟩
  · intro qs' answer' h q _ hq'
    rw [p.answers_eq_map, List.map_inj_left] at h
    rw [← h q hq']
    exact (p.settles_ask q).alike _ _
  · rintro f g rfl n
    exact p.statementIn_eq_ask f g n

/-- Two types of one struct; the field is selected from the first one, and loaded over two pointers
to the second one. -/
def Sample.shared : Program where
  types :=
    { types := #[⟨"A", some ⟨none, "A"⟩, none, some [0]⟩, ⟨"B", some ⟨none, "B"⟩, none, some [0]⟩,
        ⟨"*B", none, some 1, none⟩, ⟨"**B", none, some 2, none⟩]
      fields := #["key"] }
  functions :=
    #[{ text := "f", name := "f"
        blocks := [{ instrs :=
          [⟨"Field", "a.key", 1, some 0, .field 0 0, by decide⟩,
            ⟨"FieldAddr", "&b.key", 2, some 1, .fieldAddress 3 0, by decide⟩,
            ⟨"UnOp", "*t1", 3, some 2, .unary "*" 1, by decide⟩] }]
        values := #[⟨"t0", .other⟩, ⟨"t1", .other⟩, ⟨"t2", .other⟩] }]

-- the order decides about the name of the owner
example :
    let select : Query := ⟨0, some ⟨0, "t0 = a.key", 1⟩⟩
    let load : Query := ⟨0, some ⟨2, "t2 = *t1", 3⟩⟩
    (Sample.shared.answers {} [select, load]).map Statement.text = ["t0 := A.key", "t2 := A.key"] ∧
      (Sample.shared.answers {} [load, select]).map Statement.text =
        ["t2 := B.key", "t0 := B.key"] := by
  decide +kernel

end Program

end Ssa

end LeakCheck
