import LeakCheck.Proofs.Propagation.Reports

/-!
# Reports that fail

A host may refuse a leak. Then the run ends, and that is all: up to there it is the run of a host
that refuses nothing, and the leaks that it has reported are the first ones that this run reports
(`Analysis.run_truncated`). The argument compares the host with its lenient form. Both pass through
the same states up to the refusal (`Visits.of_restricts`), and from there on the record of the
lenient one only grows.

`Session.reportAll` stops at the first refusal. `Session.scan` is the scan that goes on to the other
variables of the statement with the refusal in hand; it comes to the same (`Session.scan_eq`).
-/

namespace LeakCheck.Propagation

open Dataflow

variable {σ τ ε : Type}

/-! ## The scan that goes on -/

namespace Session

/-- Reports the secrets that a variable holds, unless it refers to nothing or a report of the same
scan was refused. -/
def escape (host : Host σ ε) (proc : Procedure) (site : Vertex) (entering : FactSet)
    (r : Option (ReportError ε) × Session σ) (v : Var) : Option (ReportError ε) × Session σ :=
  if r.1.isSome || !v.isValid then r
  else r.2.reportAll host proc site
    ((Text.sortByText Fact.text (entering.about v)).map Fact.origin)

/-- Goes through all variables that a statement lets escape, also after a refusal. -/
def scan (host : Host σ ε) (proc : Procedure) (site : Vertex) (stmt : Statement)
    (entering : FactSet) (s : Session σ) : Option (ReportError ε) × Session σ :=
  (escaping stmt).foldl (escape host proc site entering) (none, s)

theorem reportAll_append (host : Host σ ε) (proc : Procedure) (site : Vertex)
    (first rest : List Vertex) (s : Session σ) :
    s.reportAll host proc site (first ++ rest) =
      match s.reportAll host proc site first with
      | (some e, s) => (some e, s)
      | (none, s) => s.reportAll host proc site rest := by
  induction first generalizing s with
  | nil => rfl
  | cons origin first ih =>
    rw [List.cons_append, reportAll, reportAll]
    rcases s.report host proc origin site with ⟨_ | e, s'⟩
    · exact ih s'
    · rfl

/-- After a refusal a scan reports nothing. -/
theorem foldl_escape_of_refused (host : Host σ ε) (proc : Procedure) (site : Vertex)
    (entering : FactSet) (e : ReportError ε) (s : Session σ) (vars : List Var) :
    vars.foldl (escape host proc site entering) (some e, s) = (some e, s) := by
  induction vars with
  | nil => rfl
  | cons v vars ih => exact ih

/-- **A scan that goes on after a refusal does what stopping does.** -/
theorem scan_eq (host : Host σ ε) (proc : Procedure) (site : Vertex) (stmt : Statement)
    (entering : FactSet) (s : Session σ) :
    s.scan host proc site stmt entering =
      s.reportAll host proc site (escapingOrigins stmt entering) := by
  rw [scan, escapingOrigins]
  generalize escaping stmt = vars
  induction vars generalizing s with
  | nil => rfl
  | cons v vars ih =>
    rw [List.foldl_cons]
    by_cases hv : v.isValid = true
    · have hescape : escape host proc site entering (none, s) v = s.reportAll host proc site
          ((Text.sortByText Fact.text (entering.about v)).map Fact.origin) := by
        simp [escape, hv]
      rw [hescape, List.filter_cons_of_pos hv, List.flatMap_cons, reportAll_append]
      rcases s.reportAll host proc site
        ((Text.sortByText Fact.text (entering.about v)).map Fact.origin) with ⟨_ | e, s'⟩
      · exact ih s'
      · exact foldl_escape_of_refused host proc site entering e s' vars
    · have hescape : escape host proc site entering (none, s) v = (none, s) := by
        simp [escape, hv]
      rw [hescape, List.filter_cons_of_neg hv]
      exact ih s

end Session

/-! ## The record of a host that refuses a leak -/

/-- The host counts the leaks that it is given by `given`. It takes those before the `k`th and
refuses that one, with whatever it has to say in its state; what it does about later ones is
free. -/
structure Host.RefusesAt (host : Host σ ε) (given : σ → Nat) (k : Nat) : Prop where
  note : ∀ e c, given (host.note e c) = given c
  count : ∀ leak c, given (host.report leak c).2 = given c + 1
  takes : ∀ leak c, given c + 1 < k → (host.report leak c).1 = none
  refuses : ∀ leak c, given c + 1 = k → (host.report leak c).1.isSome

/-- The host was given this leak as its `k`th, said `cause`, and was left in the state `c`. -/
def Host.Denies (host : Host σ ε) (given : σ → Nat) (k : Nat) (leak : Leak) (cause : ε) (c : σ) :
    Prop :=
  ∃ before, given before + 1 = k ∧ host.report leak before = (some cause, c)

namespace Session

/-- All recorded leaks were taken, and the `k`th is yet to come. -/
structure Untroubled (given : σ → Nat) (k : Nat) (s : Session (σ × List Leak)) : Prop where
  count : given s.client.1 = s.client.2.length
  lt : s.client.2.length < k

/-- The last recorded leak is the `k`th. It was given for `site` and refused by `e`. -/
def Refused (host : Host σ ε) (given : σ → Nat) (k : Nat) (site : Vertex) (e : ReportError ε)
    (s : Session (σ × List Leak)) : Prop :=
  ∃ taken leak cause, s.client.2 = taken ++ [leak] ∧ taken.length + 1 = k ∧ leak.site = site ∧
    e = ⟨leak.origin, leak.site, cause⟩ ∧ host.Denies given k leak cause s.client.1

/-- What reports at a site come to: none was refused, or the `k`th leak was the last one. -/
def Answered (host : Host σ ε) (given : σ → Nat) (k : Nat) (site : Vertex) :
    Option (ReportError ε) × Session (σ × List Leak) → Prop
  | (none, s) => s.Untroubled given k
  | (some e, s) => s.Refused host given k site e

section
variable {host : Host σ ε} {given : σ → Nat} {k : Nat} {s : Session (σ × List Leak)}

theorem Untroubled.note (hhost : host.RefusesAt given k) (hs : s.Untroubled given k)
    (e : Event) : (s.note host.recorded e).Untroubled given k :=
  ⟨(hhost.note e _).trans hs.count, hs.lt⟩

/-- A report is taken, or it is the one that is refused. -/
theorem Untroubled.report (hhost : host.RefusesAt given k) (hs : s.Untroubled given k)
    (proc : Procedure) (origin site : Vertex) :
    Answered host given k site (s.report host.recorded proc origin site) := by
  by_cases hmem : (origin, site) ∈ s.reported
  · rw [Session.report, if_pos hmem]
    exact hs
  · obtain ⟨hcount, hlt⟩ := hs.note hhost (.escapes origin site)
    have hgiven := hhost.count ⟨proc, origin, site⟩ (host.note (.escapes origin site) s.client.1)
    have hnew : s.report host.recorded proc origin site =
        ((host.report ⟨proc, origin, site⟩ (host.note (.escapes origin site) s.client.1)).1.map
            (⟨origin, site, ·⟩),
          ⟨s.reported ++ [(origin, site)],
            (host.report ⟨proc, origin, site⟩ (host.note (.escapes origin site) s.client.1)).2,
            s.client.2 ++ [⟨proc, origin, site⟩]⟩) := by
      rw [Session.report, if_neg hmem]
      rfl
    rw [hnew]
    change given (host.note (.escapes origin site) s.client.1) = s.client.2.length at hcount
    change s.client.2.length < k at hlt
    rcases Nat.lt_or_eq_of_le (Nat.succ_le_of_lt hlt) with hlt | heq
    · rw [hhost.takes _ _ (by rw [hcount]; exact hlt)]
      refine ⟨?_, ?_⟩
      · show given _ = (s.client.2 ++ [_]).length
        rw [hgiven, hcount, List.length_append, List.length_singleton]
      · show (s.client.2 ++ [_]).length < k
        rw [List.length_append, List.length_singleton]
        exact hlt
    · obtain ⟨cause, hcause⟩ := Option.isSome_iff_exists.1 (hhost.refuses ⟨proc, origin, site⟩
        (host.note (.escapes origin site) s.client.1) (by rw [hcount]; exact heq))
      rw [hcause]
      exact ⟨s.client.2, ⟨proc, origin, site⟩, cause, rfl, heq, rfl, rfl,
        host.note (.escapes origin site) s.client.1, by rw [hcount]; exact heq,
        Prod.ext hcause rfl⟩

/-- Reports at a site are all taken, or they end with the one that is refused. -/
theorem Untroubled.reportAll (hhost : host.RefusesAt given k) (hs : s.Untroubled given k)
    (proc : Procedure) (site : Vertex) (origins : List Vertex) :
    Answered host given k site (s.reportAll host.recorded proc site origins) := by
  induction origins generalizing s with
  | nil => exact hs
  | cons origin rest ih =>
    have hreport := hs.report hhost proc origin site
    rw [Session.reportAll]
    generalize s.report host.recorded proc origin site = r at hreport ⊢
    obtain ⟨_ | e, s'⟩ := r
    · exact ih hreport
    · exact hreport

/-- The record only grows. -/
theorem record_reportEach (host : Host σ ε) (proc : Procedure) (site : Vertex)
    (origins : List Vertex) (s : Session (σ × List Leak)) :
    s.client.2 <+: (s.reportEach host.recorded proc site origins).client.2 := by
  rw [record_reportEach_eq]
  exact List.prefix_append _ _

/-- What is recorded up to a refusal is the beginning of what is recorded without stopping. -/
theorem record_reportAll (host : Host σ ε) (proc : Procedure) (site : Vertex)
    (origins : List Vertex) (s : Session (σ × List Leak)) :
    (s.reportAll host.recorded proc site origins).2.client.2 <+:
      (s.reportEach host.recorded proc site origins).client.2 := by
  induction origins generalizing s with
  | nil => exact List.prefix_rfl
  | cons origin rest ih =>
    show _ <+: ((s.report host.recorded proc origin site).2.reportEach host.recorded proc site
      rest).client.2
    rw [Session.reportAll]
    rcases s.report host.recorded proc origin site with ⟨_ | e, s'⟩
    · exact ih s'
    · exact record_reportEach host proc site rest s'

end

/-- Going on after refusals is what one does with a lenient host. -/
theorem reportEach_lenient (host : Host σ ε) (proc : Procedure) (site : Vertex)
    (origins : List Vertex) (s : Session σ) :
    s.reportEach host.lenient proc site origins = s.reportEach host proc site origins := by
  induction origins generalizing s with
  | nil => rfl
  | cons origin rest ih =>
    show (s.report host.lenient proc origin site).2.reportEach host.lenient proc site rest = _
    rw [report_lenient, ih]
    rfl

end Session

/-! ## Runs -/

section
variable {a : Analysis} {host : Host σ ε} {given : σ → Nat} {k : Nat} {g : Graph}

/-- A transfer succeeds iff its reports are taken, and fails with the one that is refused. -/
theorem Analysis.reportAll_of_transfer {n : Vertex} {x : FactSet} {s c : Session σ}
    {r : Except (ReportError ε) FactSet} (h : a.transfer host n x s = (r, c)) :
    (s.note host (.transfer n (a.statement n))).reportAll host a.proc n
      (escapingOrigins (a.statement n) x) =
        (match r with | .error e => some e | .ok _ => none, c) := by
  simp only [Analysis.transfer] at h
  split at h
  · next heq =>
    cases h
    exact heq
  · next heq =>
    cases h
    exact heq

/-- As long as a run goes on, no leak was refused. -/
theorem Visits.untroubled (hhost : host.RefusesAt given k) {s : Session (σ × List Leak)}
    (hs : s.Untroubled given k) {t : Progress FactSet (Session (σ × List Leak))}
    (ht : Visits (a.problem host.recorded) g (Analysis.opening host.recorded g s) t) :
    t.client.Untroubled given k := by
  induction ht with
  | refl => exact ⟨(hhost.note _ _).trans hs.count, hs.lt⟩
  | @tail t t' hrun hstep ih =>
    obtain ⟨n, rest, y, c, -, htransfer, -, -, hclient⟩ := hstep.evaluated
    have hall := (ih.note hhost (.transfer n (a.statement n))).reportAll hhost a.proc n
      (escapingOrigins (a.statement n) (inflow (a.problem host.recorded) g t.solution.after n))
    have hc : c.Untroubled given k := by
      rw [Analysis.reportAll_of_transfer htransfer] at hall
      exact hall
    rcases hclient with hclient | hclient
    · exact hclient ▸ hc
    · exact hclient ▸ hc.note hhost _

/-- The record of a host that never fails only grows. -/
theorem Step.record (hh : host.NeverFails) {t t' : Progress FactSet (Session (σ × List Leak))}
    (h : Step (a.problem host.recorded) g t t') : t.client.client.2 <+: t'.client.client.2 := by
  obtain ⟨n, rest, e, e', x, -, -, -, hclient⟩ := Step.session hh.recorded h
  have heach := Session.record_reportEach host a.proc n (escapingOrigins (a.statement n) x)
    (t.client.note host.recorded e)
  rcases hclient with hclient | hclient
  · exact hclient ▸ heach
  · exact hclient ▸ heach

theorem Steps.record (hh : host.NeverFails) {t t' : Progress FactSet (Session (σ × List Leak))}
    (h : Relation.ReflTransGen (Step (a.problem host.recorded) g) t t') :
    t.client.client.2 <+: t'.client.client.2 := by
  induction h with
  | refl => exact List.prefix_rfl
  | tail _ hstep ih => exact ih.trans (Step.record hh hstep)

/-- A run with a host that refuses its `k`th leak, compared with the run of the lenient host: either
this one has fewer leaks and the two are the same, or the run fails with the `k`th of them. -/
theorem Analysis.run_lenient_or_refused (a : Analysis) (hhost : host.RefusesAt given k)
    (hk : 1 ≤ k) (hg : g.defect? = none) (s : Session σ) (hs : given s.client = 0) :
    (a.reports host g s = a.reports host.lenient g s ∧ (a.reports host.lenient g s).length < k ∧
      (a.run host g s).1 = (a.run host.lenient g s).1) ∨
    ∃ taken leak cause, a.reports host g s = taken ++ [leak] ∧ taken.length + 1 = k ∧
      taken ++ [leak] <+: a.reports host.lenient g s ∧
      (a.run host g s).1 = .error ⟨a.proc, .transfer leak.site ⟨leak.origin, leak.site, cause⟩⟩ ∧
      host.Denies given k leak cause (a.run host g s).2.client := by
  have hr : Session.Untroubled given k ⟨s.reported, (s.client, [])⟩ := ⟨hs, hk⟩
  obtain ⟨u, hu, huq, hurun⟩ :=
    a.run_ok host.lenient_neverFails.recorded hg ⟨s.reported, (s.client, [])⟩
  have hlenient : a.reports host.lenient g s = u.client.client.2 := by
    rw [reports, hurun]
    rfl
  have hlenientRun : (a.run host.lenient g s).1 = .ok u.solution := by
    rw [run_recorded, hurun]
  rw [hlenient, hlenientRun, run_recorded, client_recorded]
  rcases a.run_ends host.recorded hg ⟨s.reported, (s.client, [])⟩ with
    ⟨t, ht, htq, hrun⟩ | ⟨t, n, rest, e, c, ht, htq, hfail, hrun⟩
  · -- nothing was refused, so the two runs end in the same state
    have hlead := (ht.of_restricts (a.restricts_lenient host.recorded)).leads_to_end hu huq
    have htu : t = u := by
      rcases hlead.cases_head with rfl | ⟨t', hstep, -⟩
      · rfl
      · obtain ⟨m, rest, -, -, hq, -⟩ := hstep.evaluated
        rw [htq] at hq
        cases hq
    subst htu
    have hreports : a.reports host g s = t.client.client.2 := by
      rw [reports, hrun]
      rfl
    exact .inl ⟨hreports, (Visits.untroubled hhost hr ht).lt, by rw [hrun]⟩
  · -- the transfer through `n` was refused; the lenient run takes the same step and goes on
    have hall := reportAll_of_transfer hfail
    have hanswered := ((Visits.untroubled hhost hr ht).note hhost
      (.transfer n (a.statement n))).reportAll hhost a.proc n
        (escapingOrigins (a.statement n) (inflow (a.problem host.recorded) g t.solution.after n))
    rw [hall] at hanswered
    obtain ⟨taken, leak, cause, hrecord, hlength, rfl, rfl, hdenies⟩ := hanswered
    have hreports : a.reports host g s = taken ++ [leak] := by
      rw [reports, hrun]
      exact hrecord
    rw [hrun]
    refine .inr ⟨taken, leak, cause, hreports, hlength, ?_, rfl, hdenies⟩
    have hlead := (ht.of_restricts (a.restricts_lenient host.recorded)).leads_to_end hu huq
    rcases hlead.cases_head with rfl | ⟨t', hstep, hrest⟩
    · rw [huq] at htq
      cases htq
    · obtain ⟨m, rest', y, c', hq, htransfer, -, -, hclient⟩ := hstep.evaluated
      cases htq.symm.trans hq
      cases (a.transfer_eq host.recorded.lenient_neverFails _ _ t.client).symm.trans htransfer
      have hprefix := Session.record_reportAll host a.proc leak.site (escapingOrigins
        (a.statement leak.site) (inflow (a.problem host.recorded) g t.solution.after leak.site))
        (t.client.note host.recorded (.transfer leak.site (a.statement leak.site)))
      rw [hall, hrecord, ← Session.reportEach_lenient] at hprefix
      have hstepRecord : taken ++ [leak] <+: t'.client.client.2 := by
        rcases hclient with hclient | hclient
        · exact hclient ▸ hprefix
        · exact hclient ▸ hprefix
      exact hstepRecord.trans (Steps.record host.lenient_neverFails hrest)

end

namespace Analysis

/-- **A report that fails only truncates a run.** On a graph without defects let `L` be the leaks
that are reported to a host that never fails. A host that refuses the `k`th leak it is given is
given the first `min k |L|` of them. The run fails iff `k ≤ |L|`, and then with what the host says
of the `k`th leak in the state it has come to, and nothing happens to the host afterwards; otherwise
it has the same solution. That is so although the scan of a statement goes on after a refusal: it
reports nothing more. -/
theorem run_truncated (a : Analysis) {host₀ : Host τ ε} (hh : host₀.NeverFails) {host : Host σ ε}
    {given : σ → Nat} {k : Nat} (hhost : host.RefusesAt given k) (hk : 1 ≤ k) {g : Graph}
    (hg : g.defect? = none) (s₀ : Session τ) (s : Session σ) (hs : given s.client = 0) :
    a.reports host g s =
      (a.reports host₀ g s₀).take (min k (a.reports host₀ g s₀).length) ∧
    ((∃ e, (a.run host g s).1 = .error e) ↔ k ≤ (a.reports host₀ g s₀).length) ∧
    (∀ leak, (a.reports host₀ g s₀)[k - 1]? = some leak → ∃ before cause,
      given before + 1 = k ∧ host.report leak before = (some cause, (a.run host g s).2.client) ∧
      (a.run host g s).1 =
        .error ⟨a.proc, .transfer leak.site ⟨leak.origin, leak.site, cause⟩⟩) ∧
    ((a.reports host₀ g s₀).length < k →
      ∃ sol, (a.run host g s).1 = .ok sol ∧ (a.run host₀ g s₀).1 = .ok sol) ∧
    ∀ n x t, Session.scan host a.proc n (a.statement n) x t =
      Session.reportAll host a.proc n (escapingOrigins (a.statement n) x) t := by
  have halike := hh.alike host.lenient_neverFails
  have hreports := halike.reports a g (s := s₀) (t := s) trivial
  have hresult := (halike.run a g (s := s₀) (t := s) trivial).1
  obtain ⟨t, -, -, hrun₀⟩ := a.run_ok hh hg s₀
  rw [hrun₀] at hresult ⊢
  rw [hreports]
  rcases a.run_lenient_or_refused hhost hk hg s hs with
    ⟨hsame, hlt, hrun⟩ |
    ⟨taken, leak, cause, htaken, hlength, ⟨later, hlater⟩, hrun, before, hbefore, hreport⟩
  · have hok := hrun.trans hresult.symm
    refine ⟨?_, ⟨?_, fun hle => ?_⟩, fun leak hleak => ?_, fun _ => ⟨t.solution, hok, rfl⟩,
      fun n x t => Session.scan_eq host a.proc n (a.statement n) x t⟩
    · rw [hsame, Nat.min_eq_right hlt.le, List.take_length]
    · rintro ⟨e, he⟩
      rw [hok] at he
      cases he
    · omega
    · have hle := (List.getElem?_eq_some_iff.1 hleak).1
      omega
  · have hle : k ≤ (a.reports host.lenient g s).length := by
      rw [← hlater, List.length_append, List.length_append, List.length_singleton]
      omega
    refine ⟨?_, ⟨fun _ => hle, fun _ => ⟨_, hrun⟩⟩, fun leak' hleak => ?_, fun hlt => ?_,
      fun n x t => Session.scan_eq host a.proc n (a.statement n) x t⟩
    · rw [htaken, Nat.min_eq_left hle, ← hlater, List.take_left']
      rw [List.length_append, List.length_singleton, hlength]
    · have hlast : (a.reports host.lenient g s)[k - 1]? = some leak := by
        rw [← hlater, ← hlength, List.append_assoc, Nat.add_sub_cancel,
          List.getElem?_append_right le_rfl, Nat.sub_self]
        rfl
      cases hlast.symm.trans hleak
      exact ⟨before, cause, hbefore, hreport, hrun⟩
    · omega

end Analysis

namespace Sample

/-- The secret `x` is obtained and copied to `y`, and both are given back. -/
def pair : Analysis where
  proc := default
  secret := defaultSecret
  statement n :=
    if n = vertex 0 then .assign [x] [.staticCall "GetSecret" []]
    else if n = vertex 1 then .assign [y] [.read x]
    else .giveBack [.read x, .read y]

/-- The three statements of `pair` follow each other. -/
def pairGraph : Graph :=
  ((Adjacency.ofEntry (vertex 0)).addEdge (vertex 0) (vertex 1)
    |>.addEdge (vertex 1) (vertex 2)).toGraph

/-- A host that counts leaks and refuses the `k`th, with the number of those that it took. -/
def refusesAt (k : Nat) : Host Nat Nat where
  note _ count := count
  report _ count := (if count + 1 = k then some count else none, count + 1)

theorem refusesAt_spec (k : Nat) : (refusesAt k).RefusesAt id k where
  note _ _ := rfl
  count _ _ := rfl
  takes _ _ h := if_neg (Nat.ne_of_lt h)
  refuses _ _ h := Option.isSome_iff_exists.2 ⟨_, if_pos h⟩

/-- Both leaks of `pair` are at its last statement. When the first is refused the second is not
reported and the run fails with the first; when the second is refused the run fails with this one,
and the host says that it took one before. When the third would be refused, there is none. -/
theorem pair_truncated :
    pair.reports (refusesAt 1) pairGraph ⟨[], 0⟩ = [⟨pair.proc, vertex 0, vertex 2⟩] ∧
    (pair.run (refusesAt 1) pairGraph ⟨[], 0⟩).1 =
      .error ⟨pair.proc, .transfer (vertex 2) ⟨vertex 0, vertex 2, 0⟩⟩ ∧
    (pair.run (refusesAt 2) pairGraph ⟨[], 0⟩).1 =
      .error ⟨pair.proc, .transfer (vertex 2) ⟨vertex 1, vertex 2, 1⟩⟩ ∧
    pair.reports (refusesAt 3) pairGraph ⟨[], 0⟩ =
      [⟨pair.proc, vertex 0, vertex 2⟩, ⟨pair.proc, vertex 1, vertex 2⟩] ∧
    ∃ sol, (pair.run (refusesAt 3) pairGraph ⟨[], 0⟩).1 = .ok sol := by
  have hh : (refusesAt 0).NeverFails := by
    intro leak count
    simp [refusesAt]
  have hg : pairGraph.defect? = none := by decide
  have hall : pair.reports (refusesAt 0) pairGraph ⟨[], 0⟩ =
      [⟨pair.proc, vertex 0, vertex 2⟩, ⟨pair.proc, vertex 1, vertex 2⟩] := by decide +kernel
  obtain ⟨hfirst, -, hfails, -⟩ :=
    pair.run_truncated hh (refusesAt_spec 1) le_rfl hg ⟨[], 0⟩ ⟨[], 0⟩ rfl
  obtain ⟨-, -, hfails', -⟩ :=
    pair.run_truncated hh (refusesAt_spec 2) (by decide) hg ⟨[], 0⟩ ⟨[], 0⟩ rfl
  obtain ⟨hthird, -, -, hok, -⟩ :=
    pair.run_truncated hh (refusesAt_spec 3) (by decide) hg ⟨[], 0⟩ ⟨[], 0⟩ rfl
  rw [hall] at hfirst hfails hfails' hthird hok
  obtain ⟨before, e, hbefore, hreport, hrun⟩ := hfails _ rfl
  obtain ⟨before', e', hbefore', hreport', hrun'⟩ := hfails' _ rfl
  obtain ⟨sol, hsol, -⟩ := hok (by decide)
  obtain rfl : before = 0 := Nat.succ.inj hbefore
  obtain rfl : before' = 1 := Nat.succ.inj hbefore'
  cases congrArg Prod.fst hreport
  cases congrArg Prod.fst hreport'
  exact ⟨hfirst, hrun, hrun', hthird, sol, hsol⟩

end Sample

end LeakCheck.Propagation
