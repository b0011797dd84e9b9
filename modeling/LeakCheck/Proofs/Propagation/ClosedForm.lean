import LeakCheck.Proofs.Propagation.Reports

/-!
# The transfer in closed form

`leaving` is the set of facts that leave a statement, written down from the statement and the set
that enters, with quantifiers over the uses in place of a scan. It distributes over unions
(`leaving_union`) and does not see the order of the uses (`leaving_reordered`), and it is what a
transfer returns (`members_flow`). The reports of a transfer are in closed form too: of the secrets
that escape those that were not reported before, each once (`Analysis.transferReports_eq`).
-/

namespace LeakCheck.Propagation

variable {σ ε : Type}

/-! ## Facts -/

/-- The facts that leave the statement `s` at `n` when the facts of `x` enter it. -/
def leaving (secret : String) (n : Vertex) : Statement → Set Fact → Set Fact
  | .assign (d :: _) us, x =>
    if d.isValid then
      {f ∈ x | f.var ≠ d ∨ ¬ ∃ u ∈ us, IsLiteral u ∨ IsSecretCall secret u} ∪
        {f | f = ⟨n, d⟩ ∧ ∃ u ∈ us, IsSecretCall secret u ∨ ∃ v, u = .read v ∧ ∃ e ∈ x, e.var = v}
    else x
  | _, x => x

section
variable {secret : String} {n : Vertex}

theorem leaving_assign {d : Var} (hd : d.isValid = true) (rest : List Var) (us : List Value)
    (x : Set Fact) :
    leaving secret n (.assign (d :: rest) us) x =
      {f ∈ x | f.var ≠ d ∨ ¬ ∃ u ∈ us, IsLiteral u ∨ IsSecretCall secret u} ∪
        {f | f = ⟨n, d⟩ ∧
          ∃ u ∈ us, IsSecretCall secret u ∨ ∃ v, u = .read v ∧ ∃ e ∈ x, e.var = v} :=
  if_pos hd

/-- A statement that defines no variable lets all facts pass. -/
theorem leaving_eq_self {s : Statement} (hs : defined? s = none) (x : Set Fact) :
    leaving secret n s x = x := by
  cases s with
  | assign defs us =>
    cases defs with
    | nil => rfl
    | cons d rest =>
      have hd : ¬ d.isValid = true := by
        intro hd
        exact nomatch hs.symm.trans (defined?_eq_some.2 ⟨hd, rest, us, rfl⟩)
      exact if_neg hd
  | absent | invoke | giveBack | other => rfl

/-- **The facts that leave are those of the closed form.** -/
theorem members_flow (secret : String) (n : Vertex) (s : Statement) (x : FactSet) :
    (flow secret n s x).members = leaving secret n s x.members := by
  ext f
  rw [FactSet.mem_members, has_flow]
  cases hs : defined? s with
  | none =>
    rw [leaving_eq_self hs, FactSet.mem_members]
    have hno : ∀ rest us, f.var.isValid = true → s ≠ .assign (f.var :: rest) us := by
      intro rest us hv heq
      exact nomatch hs.symm.trans (defined?_eq_some.2 ⟨hv, rest, us, heq⟩)
    constructor
    · rintro (⟨hx, -⟩ | ⟨-, hv, hest⟩)
      · exact hx
      · obtain ⟨rest, us, heq⟩ := hest.exists_assign
        exact absurd heq (hno rest us hv)
    · refine fun hx => .inl ⟨hx, ?_⟩
      rintro ⟨hv, u, ⟨rest, us, heq, -⟩, -⟩
      exact hno rest us hv heq
  | some d =>
    obtain ⟨hd, rest, us, rfl⟩ := defined?_eq_some.1 hs
    have hfact : f = ⟨n, d⟩ ↔ f.origin = n ∧ f.var = d := by
      obtain ⟨origin, var⟩ := f
      simp
    simp only [leaving_assign hd, overwrites_assign, establishes_assign, FactSet.tainted_iff,
      Set.mem_union, Set.mem_ofPred_eq, FactSet.mem_members, hfact]
    constructor
    · rintro (⟨hx, hnot⟩ | ⟨horigin, -, hvar, hest⟩)
      · refine .inl ⟨hx, ?_⟩
        by_cases hvar : f.var = d
        · exact .inr fun hover => hnot ⟨hvar ▸ hd, hvar, hover⟩
        · exact .inl hvar
      · exact .inr ⟨⟨horigin, hvar⟩, hest⟩
    · rintro (⟨hx, hpass⟩ | ⟨⟨horigin, hvar⟩, hest⟩)
      · refine .inl ⟨hx, ?_⟩
        rintro ⟨-, hvar, hover⟩
        exact hpass.elim (absurd hvar) (absurd hover)
      · exact .inr ⟨horigin, hvar ▸ hd, hvar, hest⟩

/-- **The transfer distributes over unions.** -/
theorem leaving_union (secret : String) (n : Vertex) (s : Statement) (x y : Set Fact) :
    leaving secret n s (x ∪ y) = leaving secret n s x ∪ leaving secret n s y := by
  cases hs : defined? s with
  | none => rw [leaving_eq_self hs, leaving_eq_self hs, leaving_eq_self hs]
  | some d =>
    obtain ⟨hd, rest, us, rfl⟩ := defined?_eq_some.1 hs
    ext f
    simp only [leaving_assign hd, Set.mem_union, Set.mem_ofPred_eq]
    constructor
    · rintro (⟨hx | hy, hpass⟩ | ⟨hf, u, hu, hsec | ⟨v, hv, e, hx | hy, hev⟩⟩)
      · exact .inl (.inl ⟨hx, hpass⟩)
      · exact .inr (.inl ⟨hy, hpass⟩)
      · exact .inl (.inr ⟨hf, u, hu, .inl hsec⟩)
      · exact .inl (.inr ⟨hf, u, hu, .inr ⟨v, hv, e, hx, hev⟩⟩)
      · exact .inr (.inr ⟨hf, u, hu, .inr ⟨v, hv, e, hy, hev⟩⟩)
    · rintro ((⟨hx, hpass⟩ | ⟨hf, u, hu, hsec | ⟨v, hv, e, hx, hev⟩⟩) |
        (⟨hy, hpass⟩ | ⟨hf, u, hu, hsec | ⟨v, hv, e, hy, hev⟩⟩))
      · exact .inl ⟨.inl hx, hpass⟩
      · exact .inr ⟨hf, u, hu, .inl hsec⟩
      · exact .inr ⟨hf, u, hu, .inr ⟨v, hv, e, .inl hx, hev⟩⟩
      · exact .inl ⟨.inr hy, hpass⟩
      · exact .inr ⟨hf, u, hu, .inl hsec⟩
      · exact .inr ⟨hf, u, hu, .inr ⟨v, hv, e, .inr hy, hev⟩⟩

end

/-! ## The order of the uses -/

/-- Two statements are the same assignment, with its uses in two orders. -/
inductive Reordered : Statement → Statement → Prop
  | uses {defs : List Var} {us us' : List Value} (h : us.Perm us') :
      Reordered (.assign defs us) (.assign defs us')

theorem leaving_reordered {s s' : Statement} (h : Reordered s s') (secret : String) (n : Vertex)
    (x : Set Fact) : leaving secret n s x = leaving secret n s' x := by
  obtain ⟨hperm⟩ := h
  rename_i defs us us'
  cases defs with
  | nil => rfl
  | cons d rest => simp only [leaving, hperm.mem_iff]

theorem LetsEscape.reordered {s s' : Statement} (h : Reordered s s') {v : Var} :
    LetsEscape s v ↔ LetsEscape s' v := by
  obtain ⟨hperm⟩ := h
  constructor
  · rintro ⟨⟩
    next hu hread => exact .used (hperm.mem_iff.1 hu) hread
  · rintro ⟨⟩
    next hu hread => exact .used (hperm.mem_iff.2 hu) hread

/-! ## Reports -/

namespace Analysis

/-- The leaks that a transfer gives to its host, in their order. -/
def transferReports (a : Analysis) (host : Host σ ε) (n : Vertex) (x : FactSet) (s : Session σ) :
    List Leak :=
  (a.transfer host.recorded n x ⟨s.reported, s.client, []⟩).2.client.2

section
variable {a : Analysis} {host : Host σ ε} {n : Vertex} {x : FactSet} {s : Session σ}

theorem transferReports_eq (hh : host.NeverFails) :
    a.transferReports host n x s =
      (Session.unreported s.reported n (escapingOrigins (a.statement n) x)).map
        fun o => ⟨a.proc, o, n⟩ := by
  rw [transferReports, transfer_eq hh.recorded]
  exact (Session.record_reportEach_eq host a.proc n _ _).trans (List.nil_append _)

/-- What was reported after a transfer is what was reported before it and what it reports. -/
theorem reported_transfer (hh : host.NeverFails) :
    (a.transfer host n x s).2.reported =
      s.reported ++ (a.transferReports host n x s).map fun l => (l.origin, l.site) := by
  rw [transfer_eq hh, transferReports_eq hh, List.map_map]
  exact Session.reported_reportEach host a.proc n _ _

theorem nodup_transferReports (hh : host.NeverFails) : (a.transferReports host n x s).Nodup := by
  rw [transferReports_eq hh]
  refine (nodup_eraseDups _).map ?_
  intro o o' h
  exact congrArg Leak.origin h

/-- **The reports of a transfer** are for the facts that enter about a variable that escapes. -/
theorem mem_transferReports (hh : host.NeverFails) {l : Leak} :
    l ∈ a.transferReports host n x s ↔
      l.proc = a.proc ∧ l.site = n ∧ (l.origin, n) ∉ s.reported ∧
        ∃ f, x.has f = true ∧ f.origin = l.origin ∧ f.var.isValid = true ∧
          LetsEscape (a.statement n) f.var := by
  simp only [transferReports_eq hh, List.mem_map, Session.mem_unreported, mem_escapingOrigins]
  constructor
  · rintro ⟨o, ⟨⟨v, hv, hesc, hf⟩, hnew⟩, rfl⟩
    exact ⟨rfl, rfl, hnew, ⟨o, v⟩, hf, rfl, hv, hesc⟩
  · rintro ⟨hproc, hsite, hnew, f, hf, horigin, hv, hesc⟩
    refine ⟨l.origin, ⟨⟨f.var, hv, hesc, horigin ▸ hf⟩, hnew⟩, ?_⟩
    rw [← hproc, ← hsite]

/-- The order of the uses does not matter to what is reported. -/
theorem mem_transferReports_reordered (hh : host.NeverFails) {a' : Analysis}
    (hproc : a'.proc = a.proc) (hre : Reordered (a.statement n) (a'.statement n)) {l : Leak} :
    l ∈ a'.transferReports host n x s ↔ l ∈ a.transferReports host n x s := by
  simp only [mem_transferReports hh, hproc, LetsEscape.reordered hre]

end

/-- **A transfer in closed form.** With a host that never fails a transfer succeeds. The facts that
leave are `leaving` of those that enter; the host is given, each once, the leaks of the facts that
enter about a variable that escapes, less those reported before, and exactly these are added to what
was reported. So neither depends on the order of the uses, and what leaves for a union is the union
of what leaves. -/
theorem transfer_closed_form (a : Analysis) {host : Host σ ε} (hh : host.NeverFails) (n : Vertex)
    (s : Session σ) :
    (∀ x : FactSet, (∀ f, x.has f = true → f.var.isValid = true) →
      ∃ out s', a.transfer host n x s = (.ok out, s') ∧
        out.members = leaving a.secret n (a.statement n) x.members ∧
        (a.transferReports host n x s).Nodup ∧
        (∀ l, l ∈ a.transferReports host n x s ↔
          l.proc = a.proc ∧ l.site = n ∧ (l.origin, n) ∉ s.reported ∧
            ∃ f, x.has f = true ∧ f.origin = l.origin ∧ LetsEscape (a.statement n) f.var) ∧
        s'.reported =
          s.reported ++ (a.transferReports host n x s).map fun l => (l.origin, l.site)) ∧
    (∀ (x : FactSet) (a' : Analysis), a'.proc = a.proc → a'.secret = a.secret →
      Reordered (a.statement n) (a'.statement n) →
      (∃ out out', (a.transfer host n x s).1 = .ok out ∧ (a'.transfer host n x s).1 = .ok out' ∧
        out'.members = out.members) ∧
      ∀ l, l ∈ a'.transferReports host n x s ↔ l ∈ a.transferReports host n x s) ∧
    (∀ x y : FactSet, ∃ outX outY out, (a.transfer host n x s).1 = .ok outX ∧
      (a.transfer host n y s).1 = .ok outY ∧ (a.transfer host n (x.union y) s).1 = .ok out ∧
      out.members = outX.members ∪ outY.members) := by
  have hout : ∀ (a' : Analysis) (x : FactSet), (a'.transfer host n x s).1 = .ok (a'.flowAt n x) :=
    fun a' x => a'.problem_computes hh n x s
  refine ⟨fun x hx => ?_, fun x a' hproc hsecret hre => ?_, fun x y => ?_⟩
  · refine ⟨a.flowAt n x, _, Prod.ext (hout a x) rfl, members_flow _ _ _ _,
      nodup_transferReports hh, fun l => ?_, reported_transfer hh⟩
    rw [mem_transferReports hh]
    constructor
    · rintro ⟨hproc, hsite, hnew, f, hf, horigin, -, hesc⟩
      exact ⟨hproc, hsite, hnew, f, hf, horigin, hesc⟩
    · rintro ⟨hproc, hsite, hnew, f, hf, horigin, hesc⟩
      exact ⟨hproc, hsite, hnew, f, hf, horigin, hx f hf, hesc⟩
  · refine ⟨⟨_, _, hout a x, hout a' x, ?_⟩, fun l => mem_transferReports_reordered hh hproc hre⟩
    rw [flowAt, flowAt, members_flow, members_flow, hsecret, leaving_reordered hre]
  · refine ⟨_, _, _, hout a x, hout a y, hout a (x.union y), ?_⟩
    rw [flowAt, flowAt, flowAt, members_flow, members_flow, members_flow, FactSet.members_union,
      leaving_union]

end Analysis

namespace Sample

/-- At its one statement `x` is a merge of a literal and `y`, with `x` itself handed to a virtual
call among the uses, twice. -/
def merge (us : List Value) : Analysis where
  proc := default
  secret := defaultSecret
  statement _ := .assign [x] us

/-- The uses of the merge. -/
def mergeUses : List Value :=
  [.constant "none", .read y, .virtualCall "Send" [.read x, .absent, .read x]]

/-- Both variables hold secrets, `x` of two origins. -/
def mergeFacts : FactSet := .ofList [⟨vertex 0, x⟩, ⟨vertex 1, x⟩, ⟨vertex 1, y⟩]

theorem mergeFacts_isValid {f : Fact} (hf : mergeFacts.has f = true) : f.var.isValid = true := by
  have hall : ∀ f ∈ mergeFacts.facts, f.var.isValid = true := by decide
  exact hall f ((mergeFacts.has_iff f).1 hf)

/-- Of the secrets that `x` holds, one was reported before and the other escapes now; a copy of `y`
takes their place. The order of the uses does not matter to that. -/
theorem merge_transfer_closed_form :
    ∃ out s', (merge mergeUses).transfer keeper (vertex 2) mergeFacts
        ⟨[(vertex 1, vertex 2)], []⟩ = (.ok out, s') ∧
      ⟨vertex 2, x⟩ ∈ out.members ∧ ⟨vertex 0, x⟩ ∉ out.members ∧
      (vertex 0, vertex 2) ∈ s'.reported ∧
      ∃ out', ((merge mergeUses.reverse).transfer keeper (vertex 2) mergeFacts
          ⟨[(vertex 1, vertex 2)], []⟩).1 = .ok out' ∧ out'.members = out.members := by
  obtain ⟨hform, horder, -⟩ := (merge mergeUses).transfer_closed_form keeper_neverFails (vertex 2)
    ⟨[(vertex 1, vertex 2)], []⟩
  obtain ⟨out, s', htransfer, hout, -, hreports, hreported⟩ :=
    hform mergeFacts fun _ => mergeFacts_isValid
  obtain ⟨⟨out₁, out', hout₁, hout', hsame⟩, -⟩ := horder mergeFacts (merge mergeUses.reverse) rfl
    rfl ⟨(List.reverse_perm _).symm⟩
  have heq : out₁ = out := by
    rw [htransfer] at hout₁
    exact (Except.ok.inj hout₁).symm
  refine ⟨out, s', htransfer, ?_, ?_, ?_, out', hout', heq ▸ hsame⟩
  · have hy : mergeFacts.has ⟨vertex 1, y⟩ = true := by decide
    rw [hout]
    exact .inr ⟨rfl, .read y, by simp [mergeUses], .inr ⟨y, rfl, ⟨vertex 1, y⟩, hy, rfl⟩⟩
  · rw [hout]
    rintro (⟨-, hpass⟩ | ⟨heq, -⟩)
    · exact hpass.elim (absurd rfl) (absurd ⟨.constant "none", by simp [mergeUses], .inl ⟨_, rfl⟩⟩)
    · exact absurd (congrArg Fact.origin heq) (by decide)
  · have hx : mergeFacts.has ⟨vertex 0, x⟩ = true := by decide
    have hsent : LetsEscape (.assign [x] mergeUses) x :=
      .used (List.mem_cons_of_mem _ (List.mem_cons_of_mem _ List.mem_cons_self))
        List.mem_cons_self
    have hleak := (hreports ⟨default, vertex 0, vertex 2⟩).2
      ⟨rfl, rfl, by decide, ⟨vertex 0, x⟩, hx, rfl, hsent⟩
    rw [hreported]
    exact List.mem_append_right _ (List.mem_map.2 ⟨_, hleak, rfl⟩)

end Sample

end LeakCheck.Propagation
