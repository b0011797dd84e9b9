import LeakCheck.Proofs.Propagation.Failures
import LeakCheck.Proofs.Ssa.Flow
import LeakCheck.Ssa.Analyze

/-!
# How the analysis of a function ends

The graph of a function has no defect (`Function.graph_draws`) and a run does not use up its
evaluations, so nothing is left that could go wrong but a report. A run that fails ends with a
report that the host refused, in the state which that report left (`Analysis.run_refused`), and the
analysis of a function fails in this way or because there is no body (`Program.analyze_ends`).
-/

namespace LeakCheck

open Propagation (Host ReportError)

namespace Propagation

variable {σ ε : Type}

/-- Where a host refused to take a leak: it said so to the report of this leak, which left it in
the state `c`. -/
def Host.Refused (host : Host σ ε) (proc : Procedure) (e : ReportError ε) (c : σ) : Prop :=
  ∃ before, host.report ⟨proc, e.origin, e.site⟩ before = (some e.cause, c)

theorem Session.refused_of_report {host : Host σ ε} {proc : Procedure} {origin site : Vertex}
    {s s' : Session σ} {e : ReportError ε} (h : s.report host proc origin site = (some e, s')) :
    e.site = site ∧ host.Refused proc e s'.client := by
  unfold report at h
  split at h
  · cases h
  · simp only [Prod.mk.injEq, Option.map_eq_some_iff] at h
    obtain ⟨⟨cause, hcause, rfl⟩, rfl⟩ := h
    exact ⟨rfl, _, Prod.ext hcause rfl⟩

theorem Session.refused_of_reportAll {host : Host σ ε} {proc : Procedure} {site : Vertex}
    {origins : List Vertex} {s s' : Session σ} {e : ReportError ε}
    (h : s.reportAll host proc site origins = (some e, s')) :
    e.site = site ∧ host.Refused proc e s'.client := by
  induction origins generalizing s with
  | nil => cases h
  | cons origin rest ih =>
    rw [reportAll] at h
    split at h
    · next hreport =>
      cases h
      exact refused_of_report hreport
    · exact ih h

/-- **A run that fails ends with a report that was refused.** -/
theorem Analysis.run_refused (a : Analysis) (host : Host σ ε) {g : Graph} (hg : g.defect? = none)
    (s : Session σ) {e : RunError ε} (h : (a.run host g s).1 = .error e) :
    ∃ n cause, e = ⟨a.proc, .transfer n cause⟩ ∧ cause.site = n ∧
      host.Refused a.proc cause (a.run host g s).2.client := by
  rcases a.run_ends host hg s with ⟨t, -, -, hrun⟩ | ⟨t, n, rest, cause, c, -, -, hfail, hrun⟩
  · rw [hrun] at h
    cases h
  · rw [hrun] at h ⊢
    cases h
    obtain ⟨hsite, hrefused⟩ := Session.refused_of_reportAll (reportAll_of_transfer hfail)
    exact ⟨n, cause, rfl, hsite, hrefused⟩

end Propagation

namespace Ssa.Program

/-- **The graph of a function is the one that it should have, and its analysis cannot fail on it.**
If the first block has an instruction, the nodes of the graph are those of the instructions in their
order, it is entered at the first one, and its edges lead to the next instruction of a block, from
the last one to the first ones of the blocks that come next, and from calls and panics to the block
that failures lead to; it has no defect. So the analysis of a function has a result, or the function
has no body, or the analysis ends with a report that the host refused. -/
theorem analyze_ends (p : Program) (f : Nat) :
    ((p.get f).HasBody → ∃ g, (p.get f).graph = .ok g ∧ (p.get f).Draws g) ∧
      ∀ (secret : String) {σ ε : Type} (host : Host σ ε) (c : σ),
        ((p.get f).HasBody ∧ ∃ out, (p.analyze secret host f c).1 = .ok out ∧
          (p.get f).Draws out.graph) ∨
        (¬ (p.get f).HasBody ∧
          (p.analyze secret host f c).1 = .error (.noBody ⟨(p.get f).text⟩)) ∨
        ((p.get f).HasBody ∧ ∃ n cause,
          (p.analyze secret host f c).1 = .error (.failed ⟨p.procedure f, .transfer n cause⟩) ∧
            cause.site = n ∧ host.Refused (p.procedure f) cause (p.analyze secret host f c).2) := by
  refine ⟨Function.graph_draws, fun secret σ ε host c => ?_⟩
  by_cases hbody : (p.get f).HasBody
  · obtain ⟨g, hgraph, hdraws⟩ := Function.graph_draws hbody
    have hfail := fun e => (p.analysis secret f g).run_refused host hdraws.accepted ⟨[], c⟩ (e := e)
    simp only [analyze, hgraph]
    generalize (p.analysis secret f g).run host g ⟨[], c⟩ = r at hfail ⊢
    obtain ⟨e | sol, s⟩ := r
    · obtain ⟨n, cause, rfl, hsite, hrefused⟩ := hfail e rfl
      exact .inr (.inr ⟨hbody, n, cause, rfl, hsite, hrefused⟩)
    · exact .inl ⟨hbody, ⟨g, sol⟩, rfl, hdraws⟩
  · refine .inr (.inl ⟨hbody, ?_⟩)
    simp only [analyze, Function.graph_of_not_hasBody hbody]

end Ssa.Program

end LeakCheck
