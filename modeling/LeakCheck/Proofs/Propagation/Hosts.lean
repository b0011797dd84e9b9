import LeakCheck.Proofs.Propagation.Run

/-!
# Hosts that answer alike

All that a run learns from its host are the answers to its reports. Two hosts that give the same
answers as long as a relation between their states holds, and that keep the relation, are alike
(`Host.Alike`), and a run with the one comes to what a run with the other comes to
(`Host.Alike.run`). Nothing is asked of what was reported before, for a run forgets it.
-/

namespace LeakCheck.Propagation

open Dataflow

variable {σ τ ε : Type}

/-- The hosts answer alike in states that `R` relates, and keep their states related. -/
structure Host.Alike (host : Host σ ε) (host' : Host τ ε) (R : σ → τ → Prop) : Prop where
  note : ∀ e c d, R c d → R (host.note e c) (host'.note e d)
  report : ∀ leak c d, R c d → (host.report leak c).1 = (host'.report leak d).1 ∧
    R (host.report leak c).2 (host'.report leak d).2

/-- Hosts that never fail are alike, whatever else they do. -/
theorem Host.NeverFails.alike {host : Host σ ε} {host' : Host τ ε} (hh : host.NeverFails)
    (hh' : host'.NeverFails) : host.Alike host' fun _ _ => True where
  note _ _ _ _ := trivial
  report leak c d _ := ⟨(hh leak c).trans (hh' leak d).symm, trivial⟩

/-- Two sessions have reported the same, to hosts whose states `R` relates. -/
structure Session.Alike (R : σ → τ → Prop) (s : Session σ) (t : Session τ) : Prop where
  reported : s.reported = t.reported
  client : R s.client t.client

section
variable {host : Host σ ε} {host' : Host τ ε} {R : σ → τ → Prop} {s : Session σ} {t : Session τ}

theorem Session.Alike.note (h : host.Alike host' R) (hst : s.Alike R t) (e : Event) :
    (s.note host e).Alike R (t.note host' e) :=
  ⟨hst.reported, h.note e _ _ hst.client⟩

theorem Session.Alike.report (h : host.Alike host' R) (hst : s.Alike R t) (proc : Procedure)
    (origin site : Vertex) :
    (s.report host proc origin site).1 = (t.report host' proc origin site).1 ∧
      (s.report host proc origin site).2.Alike R (t.report host' proc origin site).2 := by
  by_cases hmem : (origin, site) ∈ t.reported
  · simp only [Session.report, hst.reported, hmem, if_true]
    exact ⟨trivial, hst⟩
  · obtain ⟨hanswer, hstate⟩ := h.report ⟨proc, origin, site⟩ _ _
      (h.note (.escapes origin site) _ _ hst.client)
    simp only [Session.report, hst.reported, hmem, if_false]
    exact ⟨congrArg _ hanswer, rfl, hstate⟩

theorem Session.Alike.reportAll (h : host.Alike host' R) (hst : s.Alike R t) (proc : Procedure)
    (site : Vertex) (origins : List Vertex) :
    (s.reportAll host proc site origins).1 = (t.reportAll host' proc site origins).1 ∧
      (s.reportAll host proc site origins).2.Alike R (t.reportAll host' proc site origins).2 := by
  induction origins generalizing s t with
  | nil => exact ⟨rfl, hst⟩
  | cons origin rest ih =>
    obtain ⟨hanswer, hst'⟩ := hst.report h proc origin site
    rw [Session.reportAll, Session.reportAll]
    generalize s.report host proc origin site = a at hanswer hst' ⊢
    generalize t.report host' proc origin site = b at hanswer hst' ⊢
    obtain ⟨_ | e, s'⟩ := a
    all_goals
      obtain ⟨_, t'⟩ := b
      cases hanswer
    · exact ih hst'
    · exact ⟨rfl, hst'⟩

/-- The problems that an analysis makes of hosts that are alike are alike. -/
theorem Host.Alike.problem (h : host.Alike host' R) (a : Analysis) :
    (a.problem host).Alike (a.problem host') (Session.Alike R) where
  lattice := rfl
  transfer n x s t hst := by
    show (a.transfer host n x s).1 = (a.transfer host' n x t).1 ∧
      (a.transfer host n x s).2.Alike R (a.transfer host' n x t).2
    obtain ⟨hanswer, hst'⟩ := (hst.note h (.transfer n (a.statement n))).reportAll h a.proc n
      (escapingOrigins (a.statement n) x)
    simp only [Analysis.transfer]
    generalize Session.reportAll host a.proc n _ _ = r at hanswer hst' ⊢
    generalize Session.reportAll host' a.proc n _ _ = r' at hanswer hst' ⊢
    obtain ⟨_ | e, s'⟩ := r
    all_goals
      obtain ⟨_, t'⟩ := r'
      cases hanswer
      exact ⟨rfl, hst'⟩
  onChange n old new s t hst := hst.note h _

/-- **A run sees of its host only the answers.** With hosts that are alike, and whatever the two
sessions have reported before, runs of an analysis come to the same. -/
theorem Host.Alike.run (h : host.Alike host' R) (a : Analysis) (g : Graph)
    (hclient : R s.client t.client) :
    (a.run host g s).1 = (a.run host' g t).1 ∧
      (a.run host g s).2.Alike R (a.run host' g t).2 := by
  have hopen : (Analysis.opening host g s).Alike R (Analysis.opening host' g t) :=
    ⟨rfl, h.note _ _ _ hclient⟩
  obtain ⟨hresult, hst⟩ :=
    (h.problem a).solve g (evaluationBound g (a.definitions g)) hopen
  rw [Analysis.run_eq, Analysis.run_eq]
  generalize solve (a.problem host) g _ _ = r at hresult hst ⊢
  generalize solve (a.problem host') g _ _ = r' at hresult hst ⊢
  obtain ⟨e | sol, s'⟩ := r
  all_goals
    obtain ⟨_, t'⟩ := r'
    cases hresult
  · exact ⟨rfl, hst⟩
  · refine ⟨rfl, ?_⟩
    dsimp only
    rw [hst.reported]
    exact hst.note h _

end

end LeakCheck.Propagation
