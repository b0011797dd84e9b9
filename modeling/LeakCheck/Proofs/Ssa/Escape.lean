import LeakCheck.Proofs.Propagation.Reports
import LeakCheck.Proofs.Ssa.Classifier
import LeakCheck.Proofs.Ssa.Flow
import LeakCheck.Ssa.Analyze

/-!
# The values that leave a function

A value leaves a function as a result, or as an argument of a call whose target is chosen when it
runs. The arguments of a variadic call stand in an array; `Passes` says which values a call really
passes, and `mem_arguments` that these are the arguments that are looked up. With that, `Exposes` is
what an instruction lets escape, read off the instruction, and the statement of the instruction lets
escape just the variables of those values (`letsEscape_classify`), whatever a classifier has met
before.
-/

namespace LeakCheck

/-! ## The variables that a statement lets escape -/

namespace Propagation

variable {w : Var} {u : Value} {defs : List Var} {uses results : List Value}

/-- A value whose use lets a variable escape: a virtual call with the variable as an argument. -/
def Hands (u : Value) (w : Var) : Prop :=
  ∃ method args, u = .virtualCall method args ∧ .read w ∈ args

theorem letsEscape_assign : LetsEscape (.assign defs uses) w ↔ ∃ u ∈ uses, Hands u w := by
  constructor
  · rintro ⟨⟩
    next hu hread => exact ⟨_, hu, _, _, rfl, hread⟩
  · rintro ⟨u, hu, method, args, rfl, hread⟩
    exact .used hu hread

theorem letsEscape_invoke : LetsEscape (.invoke u) w ↔ Hands u w := by
  constructor
  · rintro ⟨⟩
    next hread => exact ⟨_, _, rfl, hread⟩
  · rintro ⟨method, args, rfl, hread⟩
    exact .argument hread

theorem letsEscape_giveBack : LetsEscape (.giveBack results) w ↔ .read w ∈ results := by
  constructor
  · rintro ⟨⟩
    assumption
  · exact .result

@[simp] theorem not_hands_read (v : Var) : ¬ Hands (.read v) w := by
  rintro ⟨_, _, ⟨⟩, -⟩

@[simp] theorem not_hands_unknown (what : String) : ¬ Hands (.unknown what) w := by
  rintro ⟨_, _, ⟨⟩, -⟩

end Propagation

open Propagation

namespace Ssa.Function

variable {f : Function} {c : Call} {i : Instr} {v : Nat} {users : List Nat}

/-! ## The values that a call passes -/

/-- A slice of an array that was made for the arguments of a call or for a literal, and the users of
that array. -/
def SliceOf (f : Function) (v : Nat) (users : List Nat) : Prop :=
  ∃ d array a comment, f.definition? v = some d ∧ d.operation = .slice array ∧
    f.definition? array = some a ∧ a.operation = .alloc comment users ∧
    (comment = "varargs" ∨ comment = "slicelit")

/-- A variadic call whose last argument is a slice of an array with these users. -/
def Spreads (f : Function) (c : Call) (users : List Nat) : Prop :=
  c.variadic = true ∧ ∃ last, c.args.getLast? = some last ∧ f.SliceOf last users

/-- A value that is stored through the address of an element, which is one of the users. -/
def Stores (f : Function) (users : List Nat) (v : Nat) : Prop :=
  ∃ u ∈ users, ∃ e uses address, f.instrs[u]? = some e ∧ e.operation = .elementAddress uses ∧
    e.result = some address ∧
    ∃ w ∈ uses, ∃ s, f.instrs[w]? = some s ∧ s.operation = .store address v

/-- A value that a call passes. -/
inductive Passes (f : Function) (c : Call) (v : Nat) : Prop
  /-- It is an argument of a call that passes no array of arguments. -/
  | argument (h : ∀ users, ¬ f.Spreads c users) (hv : v ∈ c.args)
  /-- It is an argument before the array. -/
  | ahead {users : List Nat} (h : f.Spreads c users) (hv : v ∈ c.args.dropLast)
  /-- It is stored in the array. -/
  | stored {users : List Nat} (h : f.Spreads c users) (hv : f.Stores users v)

theorem spreadArray?_eq_some : f.spreadArray? v = some users ↔ f.SliceOf v users := by
  simp only [spreadArray?, SliceOf, Option.bind_eq_bind, Option.bind_eq_some_iff]
  constructor
  · rintro ⟨d, hd, h⟩
    split at h
    · next array hslice =>
      obtain ⟨a, ha, h⟩ := Option.bind_eq_some_iff.1 h
      split at h
      · next comment uses halloc =>
        split at h
        · next hcomment =>
          cases h
          exact ⟨d, array, a, comment, hd, hslice, ha, halloc, hcomment⟩
        · cases h
      · cases h
    · cases h
  · rintro ⟨d, array, a, comment, hd, hslice, ha, halloc, hcomment⟩
    refine ⟨d, hd, ?_⟩
    simp only [hslice, ha, Option.bind_some, halloc, if_pos hcomment]

/-- A call passes one array of arguments at most. -/
theorem Spreads.unique {users' : List Nat} (h : f.Spreads c users) (h' : f.Spreads c users') :
    users = users' := by
  obtain ⟨-, last, hlast, hslice⟩ := h
  obtain ⟨-, last', hlast', hslice'⟩ := h'
  cases hlast.symm.trans hlast'
  rw [← spreadArray?_eq_some] at hslice hslice'
  exact Option.some.inj (hslice.symm.trans hslice')

theorem storedAt?_eq_some {address : Nat} :
    storedAt? address i = some v ↔ i.operation = .store address v := by
  unfold storedAt?
  split
  · next a w hstore =>
    by_cases ha : a = address
    · simp [hstore, ha]
    · simp [hstore, ha]
  · next hother =>
    simp only [reduceCtorEq, false_iff]
    exact hother address v

theorem mem_storedThrough :
    v ∈ f.storedThrough i ↔ ∃ uses address, i.operation = .elementAddress uses ∧
      i.result = some address ∧
      ∃ w ∈ uses, ∃ s, f.instrs[w]? = some s ∧ s.operation = .store address v := by
  unfold storedThrough
  split
  · next uses address huses haddress =>
    simp only [List.mem_filterMap, Option.bind_eq_some_iff, storedAt?_eq_some, huses, haddress,
      Operation.elementAddress.injEq, Option.some.injEq, exists_and_left, exists_eq_left']
  · next hother =>
    simp only [List.not_mem_nil, false_iff]
    rintro ⟨uses, address, huses, haddress, -⟩
    exact hother uses address huses haddress

theorem members?_eq_some {members : List Nat} :
    f.members? c = some members ↔
      ∃ users, f.Spreads c users ∧
        members = users.flatMap fun u => ((f.instrs[u]?).map f.storedThrough).getD [] := by
  simp only [members?, Spreads, ← spreadArray?_eq_some]
  cases c.variadic with
  | false => simp
  | true =>
    simp only [Bool.not_true, Bool.false_eq_true, if_false, Option.bind_eq_bind, Option.pure_def,
      Option.bind_eq_some_iff, Option.some.injEq, true_and]
    constructor
    · rintro ⟨last, hlast, users, husers, rfl⟩
      exact ⟨users, ⟨last, hlast, husers⟩, rfl⟩
    · rintro ⟨users, ⟨last, hlast, husers⟩, rfl⟩
      exact ⟨last, hlast, users, husers, rfl⟩

theorem mem_flatMap_storedThrough :
    (v ∈ users.flatMap fun u => ((f.instrs[u]?).map f.storedThrough).getD []) ↔
      f.Stores users v := by
  simp only [List.mem_flatMap, Stores]
  refine exists_congr fun u => and_congr_right fun _ => ?_
  cases hu : f.instrs[u]? with
  | none => simp
  | some e => simp [mem_storedThrough]

/-- **The arguments that are looked up are the values that the call passes.** -/
theorem mem_arguments : v ∈ f.arguments c ↔ f.Passes c v := by
  unfold arguments
  split
  · next members hmembers =>
    obtain ⟨users, hspreads, rfl⟩ := members?_eq_some.1 hmembers
    rw [List.mem_append, mem_flatMap_storedThrough]
    constructor
    · rintro (hv | hv)
      · exact .ahead hspreads hv
      · exact .stored hspreads hv
    · rintro (⟨hnot, -⟩ | ⟨-, hv⟩ | ⟨hspreads', hv⟩)
      · exact absurd hspreads (hnot users)
      · exact .inl hv
      · cases hspreads.unique hspreads'
        exact .inr hv
  · next hnone =>
    have hnot : ∀ users, ¬ f.Spreads c users := by
      intro users hspreads
      cases hnone.symm.trans (members?_eq_some.2 ⟨users, hspreads, rfl⟩)
    constructor
    · exact .argument hnot
    · rintro (⟨-, hv⟩ | ⟨hspreads, -⟩ | ⟨hspreads, -⟩)
      · exact hv
      · exact absurd hspreads (hnot _)
      · exact absurd hspreads (hnot _)

/-! ## The values that an instruction lets escape -/

/-- A value that is not a constant. -/
def Varies (f : Function) (v : Nat) : Prop := ∀ text, (f.value v).kind ≠ .constant text

/-- A call whose target is chosen when it runs. -/
inductive IsVirtual (f : Function) (c : Call) : Prop
  /-- It calls a method of an interface. -/
  | method {name : String} (h : c.callee = .method name)
  /-- It calls whatever function a value is, and that is not a function of the language. -/
  | dynamic (h : c.callee = .dynamic) (hkind : (f.value c.target).kind ≠ .builtin)

/-- A value that an instruction lets escape. -/
inductive Exposes (f : Function) (i : Instr) (v : Nat) : Prop
  /-- It is handed to the caller. -/
  | result {results : List Nat} (h : i.operation = .giveBack results) (hv : v ∈ results)
      (hvaries : f.Varies v)
  /-- It is passed by a virtual call. -/
  | argument {c : Call} (h : i.operation = .call c) (hvirtual : f.IsVirtual c) (hv : f.Passes c v)
      (hvaries : f.Varies v)

/-- A call of a known function or of a function of the language is not virtual. -/
theorem IsVirtual.not_bound (h : f.IsVirtual c) :
    (∀ name origin, c.callee ≠ .known name origin) ∧
      ((f.value c.target).kind = .builtin → ∃ name, c.callee = .method name) := by
  cases h with
  | method h => exact ⟨by simp [h], fun _ => ⟨_, h⟩⟩
  | dynamic h hkind => exact ⟨by simp [h], fun hbuiltin => absurd hbuiltin hkind⟩

section
variable {w : Var}

theorem letsEscape_define {uses : List Value} :
    LetsEscape (f.define i uses) w ↔ i.result.isSome ∧ ∃ u ∈ uses, Hands u w := by
  unfold define
  cases i.result with
  | none =>
    simp only [Option.isSome_none, Bool.false_eq_true, false_and, iff_false]
    rintro ⟨⟩
  | some r => simp [letsEscape_assign]

@[simp] theorem not_hands_operand (v : Nat) : ¬ Hands (f.operand v) w := by
  rintro ⟨method, args, h, -⟩
  unfold operand at h
  split at h <;> cases h

theorem read_eq_operand {v : Nat} : .read w = f.operand v ↔ f.Varies v ∧ w = f.localVar v := by
  unfold operand Varies
  split
  · next text hkind =>
    simp only [reduceCtorEq, false_iff, not_and]
    exact fun h => absurd hkind (h text)
  · next hkind =>
    simp only [Value.read.injEq, iff_and_self]
    exact fun _ text => hkind text

theorem read_mem_operands {vs : List Nat} :
    .read w ∈ vs.map f.operand ↔ ∃ v ∈ vs, f.Varies v ∧ w = f.localVar v := by
  simp only [List.mem_map, eq_comm, read_eq_operand]

/-- The value of a call is a virtual call iff its target is chosen when it runs. -/
theorem callValue_eq_virtualCall {args : List Value} :
    (∃ method, f.callValue c = .virtualCall method args) ↔
      f.IsVirtual c ∧ args = (f.arguments c).map f.operand := by
  unfold callValue
  cases hcallee : c.callee with
  | method name =>
    have hvirtual : f.IsVirtual c := .method hcallee
    simp [hvirtual, eq_comm]
  | known name origin =>
    have hbound : ¬ f.IsVirtual c := fun h => h.not_bound.1 name origin hcallee
    by_cases hkind : (f.value c.target).kind = .builtin
    · simp [hbound, hkind]
    · simp [hbound, hkind]
  | dynamic =>
    by_cases hkind : (f.value c.target).kind = .builtin
    · have hbuiltin : ¬ f.IsVirtual c := by
        intro h
        obtain ⟨name, hmethod⟩ := h.not_bound.2 hkind
        cases hcallee.symm.trans hmethod
      simp [hbuiltin, hkind]
    · have hvirtual : f.IsVirtual c := .dynamic hcallee hkind
      simp [hvirtual, hkind, eq_comm]

/-- The value of a call hands over what a virtual call passes. -/
theorem hands_callValue :
    Hands (f.callValue c) w ↔
      f.IsVirtual c ∧ ∃ v, f.Passes c v ∧ f.Varies v ∧ w = f.localVar v := by
  simp only [← mem_arguments, ← read_mem_operands]
  constructor
  · rintro ⟨method, args, hvalue, hread⟩
    obtain ⟨hvirtual, rfl⟩ := callValue_eq_virtualCall.1 ⟨method, hvalue⟩
    exact ⟨hvirtual, hread⟩
  · rintro ⟨hvirtual, hread⟩
    obtain ⟨method, hvalue⟩ := callValue_eq_virtualCall.2 ⟨hvirtual, rfl⟩
    exact ⟨method, _, hvalue, hread⟩

theorem exposes_call (h : i.operation = .call c) :
    (∃ v, f.Exposes i v ∧ w = f.localVar v) ↔ Hands (f.callValue c) w := by
  rw [hands_callValue]
  constructor
  · rintro ⟨v, ⟨hback, -, -⟩ | ⟨hcall, hvirtual, hv, hvaries⟩, hw⟩
    · cases h.symm.trans hback
    · cases h.symm.trans hcall
      exact ⟨hvirtual, v, hv, hvaries, hw⟩
  · rintro ⟨hvirtual, v, hv, hvaries, hw⟩
    exact ⟨v, .argument h hvirtual hv hvaries, hw⟩

theorem exposes_giveBack {vs : List Nat} (h : i.operation = .giveBack vs) :
    (∃ v, f.Exposes i v ∧ w = f.localVar v) ↔ .read w ∈ vs.map f.operand := by
  rw [read_mem_operands]
  constructor
  · rintro ⟨v, ⟨hback, hv, hvaries⟩ | ⟨hcall, -, -, -⟩, hw⟩
    · cases h.symm.trans hback
      exact ⟨v, hv, hvaries, hw⟩
    · cases h.symm.trans hcall
  · rintro ⟨v, hv, hvaries, hw⟩
    exact ⟨v, .result h hv hvaries, hw⟩

theorem not_exposes (hcall : ∀ c, i.operation ≠ .call c)
    (hback : ∀ results, i.operation ≠ .giveBack results) (v : Nat) : ¬ f.Exposes i v := by
  rintro (⟨h, -, -⟩ | ⟨h, -, -, -⟩)
  · exact hback _ h
  · exact hcall _ h

/-- No instruction but a call or a return has a statement that lets a variable escape. -/
theorem not_letsEscape_classify (ts : Types) (k : Classifier) (hcall : ∀ c, i.operation ≠ .call c)
    (hback : ∀ results, i.operation ≠ .giveBack results) :
    ¬ LetsEscape (k.classify ts f i).1 w := by
  unfold Classifier.classify
  split
  case h_1 c h => exact absurd h (hcall c)
  case h_8 results h => exact absurd h (hback results)
  case h_2 address value _ =>
    rcases k.addressed? ts f address with ⟨_ | v, d⟩
    · rintro ⟨⟩
    · simp [letsEscape_assign]
  case h_3 operand _ =>
    rcases k.addressed? ts f operand with ⟨_ | v, d⟩
    · simp [letsEscape_define]
    · simp [letsEscape_define]
  all_goals simp [letsEscape_define]

/-- **What a statement lets escape are the values that its instruction exposes.** -/
theorem letsEscape_classify (ts : Types) (k : Classifier) :
    LetsEscape (k.classify ts f i).1 w ↔ ∃ v, f.Exposes i v ∧ w = f.localVar v := by
  by_cases hcall : ∃ c, i.operation = .call c
  · obtain ⟨c, hc⟩ := hcall
    have hvalue : i.result.isSome := i.defines (by rw [hc]; rfl)
    rw [exposes_call hc]
    simp only [Classifier.classify, hc]
    by_cases hresults : c.results = 0
    · simp [hresults, letsEscape_invoke]
    · simp [hresults, letsEscape_define, hvalue]
  by_cases hback : ∃ results, i.operation = .giveBack results
  · obtain ⟨results, hr⟩ := hback
    rw [exposes_giveBack hr]
    simp only [Classifier.classify, hr]
    exact letsEscape_giveBack
  · have hcall' := fun c h => hcall ⟨c, h⟩
    have hback' := fun results h => hback ⟨results, h⟩
    refine iff_of_false (not_letsEscape_classify ts k hcall' hback') ?_
    rintro ⟨v, hv, -⟩
    exact not_exposes hcall' hback' v hv

end

end Ssa.Function

/-! ## The leaks of a function -/

namespace Ssa.Program

variable {σ ε : Type} {p : Program} {secret : String} {host : Host σ ε} {f : Nat} {g : Graph}
  {c : σ}

/-- The leaks that the analysis of a function gives to its host, in their order. -/
def reports (p : Program) (secret : String) (host : Host σ ε) (f : Nat) (c : σ) : List Leak :=
  (p.analyze secret host.recorded f (c, [])).2.2

theorem reports_of_graph (hgraph : (p.get f).graph = .ok g) :
    p.reports secret host f c = (p.analysis secret f g).reports host g ⟨[], c⟩ := by
  rw [reports, analyze_snd hgraph]
  rfl

theorem letsEscape_statement {n : Vertex} {w : Var} :
    LetsEscape ((p.analysis secret f g).statement n) w ↔
      ∃ i v, (p.get f).instrAt? n = some i ∧ (p.get f).Exposes i v ∧ w = (p.get f).localVar v := by
  show LetsEscape (Function.statementIn ((p.get f).statements p.types g) n) w ↔ _
  rw [Function.statementIn_statements]
  cases (p.get f).instrAt? n with
  | none =>
    refine iff_of_false (fun h => nomatch h) ?_
    rintro ⟨i, v, hi, -⟩
    cases hi
  | some i => simp [Function.letsEscape_classify]

/-- **The leaks of a function are decided by the values that are really passed.** If the function
has a body and the host never fails, the analysis has a result, and it reports a pair of an origin
and a site iff the site can be reached, its instruction exposes a value, and a fact of that origin
about the variable of the value enters the site in the result. So no other instruction than a return
or a virtual call is the site of a leak, and a call of a function that is known or belongs to the
language is none. -/
theorem reports_iff_exposes (p : Program) (secret : String) {host : Host σ ε}
    (hh : host.NeverFails) (f : Nat) (hbody : (p.get f).HasBody) (c : σ) :
    ∃ out, (p.analyze secret host f c).1 = .ok out ∧ (p.get f).Draws out.graph ∧
      (∀ l, l ∈ p.reports secret host f c ↔
        l.proc = p.procedure f ∧ out.graph.Reached l.site ∧
          ∃ i v, (p.get f).instrAt? l.site = some i ∧ (p.get f).Exposes i v ∧
            (out.solution.before.get l.site).has ⟨l.origin, (p.get f).localVar v⟩ = true) ∧
      ∀ l ∈ p.reports secret host f c, ∃ i, (p.get f).instrAt? l.site = some i ∧
        ((∃ results, i.operation = .giveBack results) ∨
          ∃ call, i.operation = .call call ∧
            (∀ name origin, call.callee ≠ .known name origin) ∧
            (((p.get f).value call.target).kind = .builtin →
              ∃ name, call.callee = .method name)) := by
  obtain ⟨g, hgraph, hdraws⟩ := Function.graph_draws hbody
  have hwf := Graph.WellFormed.of_defect? hdraws.accepted
  obtain ⟨t, ht, hqueue, hrun, -, hmem⟩ :=
    (p.analysis secret f g).reports_ok hh hdraws.accepted ⟨[], c⟩
  have hiff : ∀ l, l ∈ p.reports secret host f c ↔
      l.proc = p.procedure f ∧ g.Reached l.site ∧
        ∃ i v, (p.get f).instrAt? l.site = some i ∧ (p.get f).Exposes i v ∧
          (t.solution.before.get l.site).has ⟨l.origin, (p.get f).localVar v⟩ = true := by
    intro l
    rw [reports_of_graph hgraph, hmem,
      Propagation.Visits.mem_reported hh.recorded hwf ht hqueue]
    refine and_congr_right fun _ => and_congr_right fun _ => ?_
    constructor
    · rintro ⟨w, hw, hfact⟩
      obtain ⟨i, v, hi, hv, rfl⟩ := letsEscape_statement.1 hw
      exact ⟨i, v, hi, hv, hfact⟩
    · rintro ⟨i, v, hi, hv, hfact⟩
      exact ⟨_, letsEscape_statement.2 ⟨i, v, hi, hv, rfl⟩, hfact⟩
  refine ⟨⟨g, t.solution⟩, analyze_fst hgraph hrun, hdraws, hiff, fun l hl => ?_⟩
  obtain ⟨-, -, i, v, hi, hv, -⟩ := (hiff l).1 hl
  refine ⟨i, hi, ?_⟩
  cases hv with
  | result h => exact .inl ⟨_, h⟩
  | argument h hvirtual => exact .inr ⟨_, h, hvirtual.not_bound⟩

namespace Sample

/-- A secret is stored into the array of a variadic call of a method, next to a constant, and then
handed to a function that is known and to one of the language. -/
def logger : Program where
  functions := #[{
    text := "p.log", name := "log"
    blocks := [{ instrs := [
      { form := "Call", text := "getSecret()", pos := 1, result := some 0,
        operation := .call ⟨1, false, [], 5, .known "getSecret" none⟩ },
      { form := "Alloc", text := "new [2]any (varargs)", pos := 2, result := some 1,
        operation := .alloc "varargs" [2, 4, 6] },
      { form := "IndexAddr", text := "&t1[0:int]", pos := 3, result := some 2,
        operation := .elementAddress [3] },
      { form := "Store", text := "*t2 = t0", pos := 4, operation := .store 2 0 },
      { form := "IndexAddr", text := "&t1[1:int]", pos := 5, result := some 3,
        operation := .elementAddress [5] },
      { form := "Store", text := "*t3 = 1:int", pos := 6, operation := .store 3 6 },
      { form := "Slice", text := "slice t1[:]", pos := 7, result := some 4, operation := .slice 1 },
      { form := "Call", text := "invoke w.Put(t4...)", pos := 8, result := some 10,
        operation := .call ⟨0, true, [4], 7, .method "Put"⟩ },
      { form := "Call", text := "keep(t0)", pos := 9, result := some 11,
        operation := .call ⟨0, false, [0], 8, .known "keep" none⟩ },
      { form := "Call", text := "print(t0)", pos := 10, result := some 12,
        operation := .call ⟨0, false, [0], 9, .dynamic⟩ },
      { form := "Return", text := "return", pos := 11, operation := .giveBack [] }] }]
    values := #[⟨"t0", .other⟩, ⟨"t1", .other⟩, ⟨"t2", .other⟩, ⟨"t3", .other⟩, ⟨"t4", .other⟩,
      ⟨"getSecret", .other⟩, ⟨"1:int", .constant (some "1")⟩, ⟨"w", .other⟩, ⟨"keep", .other⟩,
      ⟨"print", .builtin⟩, ⟨"t5", .other⟩, ⟨"t6", .other⟩, ⟨"t7", .other⟩] }]

/-- The call of the method. -/
def put : Vertex := some ⟨7, "t5 = invoke w.Put(t4...)", 8⟩

/-- The one leak is the secret that stands in the array of the call of the method. -/
theorem logger_reports_iff_exposes :
    Propagation.Sample.keeper.NeverFails ∧ (logger.get 0).HasBody ∧
    ∃ out, (logger.analyze "getSecret" Propagation.Sample.keeper 0 []).1 = .ok out ∧
      logger.reports "getSecret" Propagation.Sample.keeper 0 [] =
        [⟨logger.procedure 0, some ⟨0, "t0 = getSecret()", 1⟩, put⟩] ∧
      ∃ i v, (logger.get 0).instrAt? put = some i ∧ (logger.get 0).Exposes i v ∧
        (out.solution.before.get put).has
          ⟨some ⟨0, "t0 = getSecret()", 1⟩, (logger.get 0).localVar v⟩ = true := by
  have hbody : (logger.get 0).HasBody := ⟨_, rfl⟩
  have hreports : logger.reports "getSecret" Propagation.Sample.keeper 0 [] =
      [⟨logger.procedure 0, some ⟨0, "t0 = getSecret()", 1⟩, put⟩] := by
    decide +kernel
  obtain ⟨out, hout, -, hiff, -⟩ := logger.reports_iff_exposes "getSecret"
    Propagation.Sample.keeper_neverFails 0 hbody []
  have hleak := (hiff ⟨logger.procedure 0, some ⟨0, "t0 = getSecret()", 1⟩, put⟩).1
    (by rw [hreports]; exact List.mem_singleton.2 rfl)
  exact ⟨Propagation.Sample.keeper_neverFails, hbody, out, hout, hreports, hleak.2.2⟩

end Sample

end Ssa.Program

end LeakCheck
