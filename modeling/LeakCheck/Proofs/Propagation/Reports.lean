import LeakCheck.Proofs.Leak.Collector
import LeakCheck.Proofs.Propagation.Hosts

/-!
# Reports

Leaks are reported while a run is still under way, from facts that more facts may join later.
`Host.recorded` writes down the calls of the host without changing the run
(`Analysis.run_recorded`), so that the calls of a run can be spoken of (`Analysis.reports`), and
`Reporting` relates what was reported so far to what is stored: a reported secret escapes by the
facts stored for its site, because these only grow, and at a vertex that does not wait nothing that
escapes was left out.
-/

namespace LeakCheck.Propagation

open Dataflow

variable {σ ε : Type}

/-! ## Recording -/

/-- The same host, which also writes down the leaks that it is given, in their order. -/
def Host.recorded (host : Host σ ε) : Host (σ × List Leak) ε where
  note e c := (host.note e c.1, c.2)
  report leak c := ((host.report leak c.1).1, (host.report leak c.1).2, c.2 ++ [leak])

theorem Host.NeverFails.recorded {host : Host σ ε} (hh : host.NeverFails) :
    host.recorded.NeverFails :=
  fun leak c => hh leak c.1

/-- A host that also writes down its leaks answers alike. -/
theorem Host.recorded_alike (host : Host σ ε) : host.Alike host.recorded fun c d => c = d.1 where
  note _ _ _ hc := by rw [hc]; rfl
  report _ _ _ hc := by rw [hc]; exact ⟨rfl, rfl⟩

namespace Analysis

/-- **Recording changes nothing**, whether the host fails or not. -/
theorem run_recorded (a : Analysis) (host : Host σ ε) (g : Graph) (s : Session σ) :
    (a.run host g s).1 = (a.run host.recorded g ⟨s.reported, s.client, []⟩).1 :=
  (host.recorded_alike.run a g rfl).1

theorem client_recorded (a : Analysis) (host : Host σ ε) (g : Graph) (s : Session σ) :
    (a.run host g s).2.client =
      (a.run host.recorded g ⟨s.reported, s.client, []⟩).2.client.1 :=
  (host.recorded_alike.run a g rfl).2.client

/-- The leaks that a run gives to its host, in their order. -/
def reports (a : Analysis) (host : Host σ ε) (g : Graph) (s : Session σ) : List Leak :=
  (a.run host.recorded g ⟨s.reported, s.client, []⟩).2.client.2

end Analysis

theorem Host.Alike.recorded {τ : Type} {host : Host σ ε} {host' : Host τ ε} {R : σ → τ → Prop}
    (h : host.Alike host' R) :
    host.recorded.Alike host'.recorded fun c d => R c.1 d.1 ∧ c.2 = d.2 where
  note e c d hcd := ⟨h.note e _ _ hcd.1, hcd.2⟩
  report leak c d hcd := by
    obtain ⟨hanswer, hstate⟩ := h.report leak c.1 d.1 hcd.1
    exact ⟨hanswer, hstate, congrArg (· ++ [leak]) hcd.2⟩

/-- Hosts that are alike are given the same leaks. -/
theorem Host.Alike.reports {τ : Type} {host : Host σ ε} {host' : Host τ ε} {R : σ → τ → Prop}
    (h : host.Alike host' R) (a : Analysis) (g : Graph) {s : Session σ} {t : Session τ}
    (hclient : R s.client t.client) : a.reports host g s = a.reports host' g t := by
  have hrun := h.recorded.run a g (s := ⟨s.reported, (s.client, [])⟩)
    (t := ⟨t.reported, (t.client, [])⟩) ⟨hclient, rfl⟩
  exact hrun.2.client.2

/-! ## What is reported at one vertex -/

namespace Session

/-- A report adds its pair, unless that was reported. -/
theorem report_reported (host : Host σ ε) (proc : Procedure) (origin site : Vertex)
    (s : Session σ) :
    (s.report host proc origin site).2.reported =
      if (origin, site) ∈ s.reported then s.reported else s.reported ++ [(origin, site)] := by
  unfold report
  split
  · rfl
  · rfl

/-- The secrets of the given origins that were not reported at a site, each once. -/
def unreported (reported : List (Vertex × Vertex)) (site : Vertex) (origins : List Vertex) :
    List Vertex :=
  (origins.filter fun o => (o, site) ∉ reported).eraseDups

theorem mem_unreported {reported : List (Vertex × Vertex)} {site o : Vertex}
    {origins : List Vertex} :
    o ∈ unreported reported site origins ↔ o ∈ origins ∧ (o, site) ∉ reported := by
  rw [unreported, List.mem_eraseDups, List.mem_filter, decide_eq_true_eq]

theorem unreported_cons_of_mem {reported : List (Vertex × Vertex)} {site o : Vertex}
    (h : (o, site) ∈ reported) (rest : List Vertex) :
    unreported reported site (o :: rest) = unreported reported site rest := by
  rw [unreported, unreported, List.filter_cons_of_neg (by simpa using h)]

/-- Once a secret was reported, its later occurrences count as reported before. -/
theorem unreported_cons_of_not_mem {reported : List (Vertex × Vertex)} {site o : Vertex}
    (h : (o, site) ∉ reported) (rest : List Vertex) :
    unreported reported site (o :: rest) =
      o :: unreported (reported ++ [(o, site)]) site rest := by
  rw [unreported, unreported, List.filter_cons_of_pos (by simpa using h), List.eraseDups_cons,
    List.filter_filter]
  congr 3
  funext p
  by_cases hp : p = o
  · simp [hp]
  · simp [hp]

/-- The reports at a site add those that were not made before, each once. -/
theorem reported_reportEach (host : Host σ ε) (proc : Procedure) (site : Vertex)
    (origins : List Vertex) (s : Session σ) :
    (s.reportEach host proc site origins).reported =
      s.reported ++ (unreported s.reported site origins).map fun o => (o, site) := by
  induction origins generalizing s with
  | nil => simp [reportEach, unreported]
  | cons o rest ih =>
    show ((s.report host proc o site).2.reportEach host proc site rest).reported = _
    rw [ih, report_reported]
    by_cases hmem : (o, site) ∈ s.reported
    · rw [if_pos hmem, unreported_cons_of_mem hmem]
    · rw [if_neg hmem, unreported_cons_of_not_mem hmem]
      simp

/-- After the reports at a site all its secrets are reported there. -/
theorem mem_reportEach (host : Host σ ε) (proc : Procedure) (site : Vertex)
    (origins : List Vertex) (s : Session σ) (r : Vertex × Vertex) :
    r ∈ (s.reportEach host proc site origins).reported ↔
      r ∈ s.reported ∨ r.2 = site ∧ r.1 ∈ origins := by
  rw [reported_reportEach, List.mem_append, List.mem_map]
  constructor
  · rintro (hold | ⟨o, ho, rfl⟩)
    · exact .inl hold
    · exact .inr ⟨rfl, (mem_unreported.1 ho).1⟩
  · rintro (hold | ⟨rfl, ho⟩)
    · exact .inl hold
    · by_cases hr : r ∈ s.reported
      · exact .inl hr
      · exact .inr ⟨r.1, mem_unreported.2 ⟨ho, hr⟩, rfl⟩

/-- The record grows by the leak of a report that was not made before. -/
theorem record_report_eq (host : Host σ ε) (proc : Procedure) (o site : Vertex)
    (s : Session (σ × List Leak)) :
    (s.report host.recorded proc o site).2.client.2 =
      if (o, site) ∈ s.reported then s.client.2 else s.client.2 ++ [⟨proc, o, site⟩] := by
  unfold report
  split
  · rfl
  · rfl

/-- The calls of the host at a site are for the secrets that were not reported before. -/
theorem record_reportEach_eq (host : Host σ ε) (proc : Procedure) (site : Vertex)
    (origins : List Vertex) (s : Session (σ × List Leak)) :
    (s.reportEach host.recorded proc site origins).client.2 =
      s.client.2 ++ (unreported s.reported site origins).map fun o => ⟨proc, o, site⟩ := by
  induction origins generalizing s with
  | nil => simp [reportEach, unreported]
  | cons o rest ih =>
    show ((s.report host.recorded proc o site).2.reportEach host.recorded proc site
      rest).client.2 = _
    rw [ih, record_report_eq, report_reported]
    by_cases hmem : (o, site) ∈ s.reported
    · rw [if_pos hmem, if_pos hmem, unreported_cons_of_mem hmem]
    · rw [if_neg hmem, if_neg hmem, unreported_cons_of_not_mem hmem]
      simp

/-- The record of a session lists what was reported, each pair once. -/
structure Recorded (proc : Procedure) (s : Session (σ × List Leak)) : Prop where
  nodup : s.reported.Nodup
  record : s.client.2 = s.reported.map fun r => ⟨proc, r.1, r.2⟩

theorem Recorded.reportEach {proc : Procedure} {s : Session (σ × List Leak)}
    (h : s.Recorded proc) (host : Host σ ε) (site : Vertex) (origins : List Vertex) :
    (s.reportEach host.recorded proc site origins).Recorded proc := by
  refine ⟨?_, ?_⟩
  · rw [reported_reportEach, List.nodup_append]
    refine ⟨h.nodup, (nodup_eraseDups _).map fun _ _ heq => congrArg Prod.fst heq, ?_⟩
    rintro r hr _ hnew rfl
    obtain ⟨o, ho, rfl⟩ := List.mem_map.1 hnew
    exact (mem_unreported.1 ho).2 hr
  · rw [record_reportEach_eq, reported_reportEach, List.map_append, List.map_map, h.record]
    rfl

end Session

/-! ## What is reported during a run -/

/-- More facts let more secrets escape. -/
theorem escapingOrigins_mono {x y : FactSet} (h : x.members ⊆ y.members) {s : Statement}
    {origin : Vertex} (ho : origin ∈ escapingOrigins s x) : origin ∈ escapingOrigins s y := by
  obtain ⟨v, hv, hesc, hx⟩ := mem_escapingOrigins.1 ho
  exact mem_escapingOrigins.2 ⟨v, hv, hesc, h hx⟩

/-- What was reported so far, compared with what is stored. -/
structure Reporting (a : Analysis) (g : Graph) (t : Progress FactSet (Session σ)) : Prop where
  /-- What was reported escapes by the facts that are stored now. -/
  escapes : ∀ r ∈ t.client.reported, r.2 ∈ g.reachable ∧
    r.1 ∈ escapingOrigins (a.statement r.2) (t.solution.before.get r.2)
  /-- What escapes where nothing waits was reported. -/
  complete : ∀ n ∈ g.reachable, n ∉ t.queue →
    ∀ o ∈ escapingOrigins (a.statement n) (t.solution.before.get n), (o, n) ∈ t.client.reported

section
variable {a : Analysis} {host : Host σ ε} {g : Graph}

/-- What a step does to a session: the secrets that escape by the facts that enter its vertex are
reported, between events that are noted. -/
theorem Step.session (hh : host.NeverFails) {t t' : Progress FactSet (Session σ)}
    (h : Step (a.problem host) g t t') :
    ∃ n rest e e' x, t.queue = n :: rest ∧ t'.solution.before = t.solution.before.set n x ∧
      (∀ m ∈ rest, m ∈ t'.queue) ∧
      (t'.client = (t.client.note host e).reportEach host a.proc n
          (escapingOrigins (a.statement n) x) ∨
        t'.client = ((t.client.note host e).reportEach host a.proc n
          (escapingOrigins (a.statement n) x)).note host e') := by
  obtain ⟨n, rest, y, c, hq, ht, hbefore, hrest, hclient⟩ := h.evaluated
  have htransfer := (a.transfer_eq hh n _ t.client).symm.trans ht
  cases htransfer
  exact ⟨n, rest, _, _, _, hq, hbefore, hrest, hclient⟩

/-- **A step keeps reports and facts together.** What escapes at the vertex of the step is reported
by the very facts that are stored, and what is stored only grows. -/
theorem Reporting.step (hh : host.NeverFails) {t t' : Progress FactSet (Session σ)}
    (hrising : Rising (a.problem host) g a.flowAt FactSet.members t.solution)
    (hqueue : ∀ n ∈ t.queue, n ∈ g.reachable) (h : Reporting a g t)
    (hstep : Step (a.problem host) g t t') : Reporting a g t' := by
  have hgrow := fun m => (hstep.values_le (a.problem_computes hh) hrising hqueue m).1
  obtain ⟨n, rest, e, e', x, hq, hbefore, hrest, hclient⟩ := Step.session hh hstep
  have hreported : ∀ r, r ∈ t'.client.reported ↔
      r ∈ t.client.reported ∨ r.2 = n ∧ r.1 ∈ escapingOrigins (a.statement n) x := by
    intro r
    rcases hclient with hclient | hclient
    · rw [hclient]
      exact Session.mem_reportEach host a.proc n _ _ r
    · rw [hclient]
      exact Session.mem_reportEach host a.proc n _ _ r
  have hget : ∀ m, t'.solution.before.get m = if m = n then x else t.solution.before.get m := by
    intro m
    rw [hbefore, Assignment.get_set]
  refine ⟨fun r hr => ?_, fun m hm hnot o ho => ?_⟩
  · -- what was reported before escapes still, since no stored fact is lost
    rcases (hreported r).1 hr with hold | ⟨rfl, hnew⟩
    · obtain ⟨hreach, hesc⟩ := h.escapes r hold
      exact ⟨hreach, escapingOrigins_mono (hgrow r.2) hesc⟩
    · rw [hget, if_pos rfl]
      exact ⟨hqueue r.2 (by simp [hq]), hnew⟩
  · rw [hget] at ho
    by_cases hmn : m = n
    · subst hmn
      rw [if_pos rfl] at ho
      exact (hreported (o, m)).2 (.inr ⟨rfl, ho⟩)
    · rw [if_neg hmn] at ho
      have hwaits : m ∉ t.queue := by
        rw [hq, List.mem_cons]
        rintro (hm | hm)
        · exact hmn hm
        · exact hnot (hrest m hm)
      exact (hreported (o, m)).2 (.inl (h.complete m hm hwaits o ho))

/-- In every state that a run passes through reports and facts agree. -/
theorem Visits.reporting (hh : host.NeverFails) (hg : g.WellFormed) {s : Session σ}
    {t : Progress FactSet (Session σ)}
    (h : Visits (a.problem host) g (Analysis.opening host g s) t) : Reporting a g t := by
  induction h with
  | refl =>
    refine ⟨fun r hr => (nomatch hr), fun n _ _ o ho => ?_⟩
    obtain ⟨v, -, -, hv⟩ := mem_escapingOrigins.1 ho
    cases hv
  | tail hrun hstep ih =>
    have hqueue := (Visits.settled (a.problem_computes hh) hg hrun).queue_reachable
    have hrising := Visits.rising (a.problem_computes hh) hg Analysis.lattice_models
      a.flowAt_monotone hrun
    exact ih.step hh hrising hqueue hstep

/-- In every state that a recorded run passes through the record lists what was reported. -/
theorem Visits.recorded (hh : host.NeverFails) {s : Session (σ × List Leak)}
    (hs : s.client.2 = []) {t : Progress FactSet (Session (σ × List Leak))}
    (h : Visits (a.problem host.recorded) g (Analysis.opening host.recorded g s) t) :
    t.client.Recorded a.proc := by
  induction h with
  | refl => exact ⟨List.nodup_nil, hs⟩
  | tail _ hstep ih =>
    obtain ⟨n, -, e, e', x, -, -, -, hclient⟩ := Step.session hh.recorded hstep
    have hnoted : (Session.note host.recorded e _).Recorded a.proc := ⟨ih.nodup, ih.record⟩
    have heach := hnoted.reportEach host n (escapingOrigins (a.statement n) x)
    rcases hclient with hclient | hclient
    · exact hclient ▸ heach
    · exact hclient ▸ ⟨heach.nodup, heach.record⟩

/-- Facts are about variables that refer to something. -/
theorem Visits.isValid (hh : host.NeverFails) (hg : g.WellFormed) {c : Session σ}
    {t : Progress FactSet (Session σ)} (h : Visits (a.problem host) g c t) {n : Vertex} {f : Fact}
    (hf : (t.solution.before.get n).has f = true) : f.var.isValid = true := by
  refine (Visits.facts hh hg (P := fun _ f => f.var.isValid = true)
    (Q := fun _ f => f.var.isValid = true) (fun _ _ _ _ hv => hv) ?_ h n f).1 hf
  intro n _ x hx f hf
  rcases (has_flow _ _ _ _ _).1 hf with ⟨hold, -⟩ | ⟨-, hv, -⟩
  · exact hx f hold
  · exact hv

/-- When nothing waits any more, the reported pairs are those that the stored facts give. -/
theorem Visits.mem_reported (hh : host.NeverFails) (hg : g.WellFormed) {s : Session σ}
    {t : Progress FactSet (Session σ)}
    (h : Visits (a.problem host) g (Analysis.opening host g s) t) (hqueue : t.queue = [])
    {o n : Vertex} :
    (o, n) ∈ t.client.reported ↔
      g.Reached n ∧ ∃ v, LetsEscape (a.statement n) v ∧
        (t.solution.before.get n).has ⟨o, v⟩ = true := by
  have hrep := Visits.reporting hh hg h
  refine ⟨fun hr => ?_, ?_⟩
  · obtain ⟨hn, ho⟩ := hrep.escapes _ hr
    obtain ⟨v, -, hesc, hf⟩ := mem_escapingOrigins.1 ho
    exact ⟨hg.mem_reachable_iff.1 hn, v, hesc, hf⟩
  · rintro ⟨hn, v, hesc, hf⟩
    have ho := mem_escapingOrigins.2 ⟨v, Visits.isValid hh hg h hf, hesc, hf⟩
    exact hrep.complete n (hg.mem_reachable_iff.2 hn) (by simp [hqueue]) o ho

end

namespace Analysis

/-- A run with a host that never fails has a recorded run behind it: it ends with the same solution,
and the leaks given to the host are those that were reported, each once. -/
theorem reports_ok (a : Analysis) {host : Host σ ε} (hh : host.NeverFails) {g : Graph}
    (hg : g.defect? = none) (s : Session σ) :
    ∃ t, Visits (a.problem host.recorded) g
        (opening host.recorded g ⟨s.reported, s.client, []⟩) t ∧ t.queue = [] ∧
      (a.run host g s).1 = .ok t.solution ∧
      ((a.reports host g s).map fun l => (l.origin, l.site)).Nodup ∧
      ∀ l, l ∈ a.reports host g s ↔
        l.proc = a.proc ∧ (l.origin, l.site) ∈ t.client.reported := by
  obtain ⟨t, ht, hqueue, hrun⟩ := a.run_ok hh.recorded hg ⟨s.reported, s.client, []⟩
  have hrec := Visits.recorded hh rfl ht
  have hsame := a.run_recorded host g s
  rw [hrun] at hsame
  have hreports : a.reports host g s = t.client.reported.map fun r => ⟨a.proc, r.1, r.2⟩ := by
    rw [reports, hrun]
    exact hrec.record
  refine ⟨t, ht, hqueue, hsame, ?_, fun l => ?_⟩
  · rw [hreports, List.map_map]
    exact hrec.nodup.map fun _ _ h => h
  · rw [hreports, List.mem_map]
    constructor
    · rintro ⟨r, hr, rfl⟩
      exact ⟨rfl, hr⟩
    · rintro ⟨hproc, hr⟩
      exact ⟨_, hr, by rw [← hproc]⟩

/-- **Reports agree with the solution, once each.** On a graph without defects, with a host that
never fails, no pair of an origin and a site is reported twice during a run, and the reported pairs
are those for which, in the solution that the run returns, a fact of that origin enters the site
about a variable that the site lets escape. -/
theorem reports_iff_solution (a : Analysis) {host : Host σ ε} (hh : host.NeverFails) {g : Graph}
    (hg : g.defect? = none) (s : Session σ) :
    ∃ sol, (a.run host g s).1 = .ok sol ∧
      ((a.reports host g s).map fun l => (l.origin, l.site)).Nodup ∧
      ∀ l, l ∈ a.reports host g s ↔ l.proc = a.proc ∧ g.Reached l.site ∧
        ∃ v, LetsEscape (a.statement l.site) v ∧
          (sol.before.get l.site).has ⟨l.origin, v⟩ = true := by
  have hwf := Graph.WellFormed.of_defect? hg
  obtain ⟨t, ht, hqueue, hrun, hnodup, hmem⟩ := a.reports_ok hh hg s
  refine ⟨t.solution, hrun, hnodup, fun l => ?_⟩
  rw [hmem, Visits.mem_reported hh.recorded hwf ht hqueue]

end Analysis

namespace Sample

/-- The copy goes around the loop, but it is reported once, for a fact that the solution has. -/
theorem relay_reports_iff_solution :
    ∃ sol, (relay.run keeper relayGraph ⟨[], []⟩).1 = .ok sol ∧
      relay.reports keeper relayGraph ⟨[], []⟩ = [⟨relay.proc, vertex 1, vertex 3⟩] ∧
      ∃ v, LetsEscape (relay.statement (vertex 3)) v ∧
        (sol.before.get (vertex 3)).has ⟨vertex 1, v⟩ = true := by
  obtain ⟨sol, hrun, -, hiff⟩ :=
    relay.reports_iff_solution keeper_neverFails (g := relayGraph) (by decide) ⟨[], []⟩
  have hreports : relay.reports keeper relayGraph ⟨[], []⟩ =
      [⟨relay.proc, vertex 1, vertex 3⟩] := by decide +kernel
  have hmem := (hiff ⟨relay.proc, vertex 1, vertex 3⟩).1 (by rw [hreports]; simp)
  exact ⟨sol, hrun, hreports, hmem.2.2⟩

end Sample

end LeakCheck.Propagation
