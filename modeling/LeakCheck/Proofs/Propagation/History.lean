import LeakCheck.Proofs.Propagation.Reports

/-!
# The history of an analysis

An analysis may be used for any number of runs and single transfers, and each of them marks the
leaks that it reports, also those whose report fails. A run begins by forgetting the marks, so it is
the run of an analysis that was not used before (`Analysis.run_forgets_history`).
-/

namespace LeakCheck.Propagation

variable {σ τ ε : Type}

/-- The session of an analysis that was not used yet. -/
def Session.fresh (c : σ) : Session σ := ⟨[], c⟩

/-- Something that an analysis is used for. -/
inductive Action where
  /-- A run on a graph, which may be malformed. -/
  | run (g : Graph)
  /-- A transfer of facts through a vertex. -/
  | transfer (n : Vertex) (entering : FactSet)

namespace Analysis

/-- The session after an analysis was used, whether that failed or not. -/
def act (a : Analysis) (host : Host σ ε) (s : Session σ) : Action → Session σ
  | .run g => (a.run host g s).2
  | .transfer n entering => (a.transfer host n entering s).2

/-- The session of an analysis after all that it was used for, by a host that began in `c`. -/
def after (a : Analysis) (host : Host σ ε) (history : List Action) (c : σ) : Session σ :=
  history.foldl (a.act host) (.fresh c)

/-- **A run does not depend on the history of its analysis.** Whatever an analysis was used for
before, with reports that failed and graphs that were malformed among it, a run comes to the same
and reports the same leaks in the same order as the run of an analysis that was not used yet, whose
host answers like the first one does from then on. The sessions are alike again afterwards. -/
theorem run_forgets_history (a : Analysis) {host : Host σ ε} {host' : Host τ ε} {R : σ → τ → Prop}
    (halike : host.Alike host' R) (history : List Action) (c : σ) (g : Graph) {d : τ}
    (hd : R (a.after host history c).client d) :
    (a.run host g (a.after host history c)).1 = (a.run host' g (.fresh d)).1 ∧
      a.reports host g (a.after host history c) = a.reports host' g (.fresh d) ∧
      (a.run host g (a.after host history c)).2.Alike R (a.run host' g (.fresh d)).2 := by
  obtain ⟨hresult, hsession⟩ := halike.run a g (t := Session.fresh d) hd
  exact ⟨hresult, halike.reports a g hd, hsession⟩

end Analysis

namespace Sample

/-- A host that refuses every leak and counts them. -/
def refusals : Host Nat Unit where
  note _ count := count
  report _ count := (some (), count + 1)

/-- The leak of `relay` is refused in a run and, after a run on a malformed graph, at its site,
where the mark stays. -/
def relayHistory : List Action :=
  [.run relayGraph, .run { relayGraph with nodes := [] },
    .transfer (vertex 3) (.ofList [⟨vertex 1, y⟩])]

/-- The history of `relay` leaves the mark of its only leak, and a host that has counted two. Still
a run gives that leak to the host and fails like the first run did. -/
theorem relay_forgets_history :
    (relay.after refusals relayHistory 0).reported = [(vertex 1, vertex 3)] ∧
    (relay.after refusals relayHistory 0).client = 2 ∧
    relay.reports refusals relayGraph (relay.after refusals relayHistory 0) =
      [⟨relay.proc, vertex 1, vertex 3⟩] ∧
    (relay.run refusals relayGraph (relay.after refusals relayHistory 0)).1 =
      (relay.run refusals relayGraph (.fresh 0)).1 := by
  have halike : refusals.Alike refusals fun _ _ => True :=
    ⟨fun _ _ _ _ => trivial, fun _ _ _ _ => ⟨rfl, trivial⟩⟩
  have hfirst : relay.reports refusals relayGraph (.fresh 0) =
      [⟨relay.proc, vertex 1, vertex 3⟩] := by decide +kernel
  obtain ⟨hresult, hreports, -⟩ :=
    relay.run_forgets_history halike relayHistory 0 relayGraph (d := 0) trivial
  exact ⟨by decide +kernel, by decide +kernel, hreports.trans hfirst, hresult⟩

end Sample

end LeakCheck.Propagation
