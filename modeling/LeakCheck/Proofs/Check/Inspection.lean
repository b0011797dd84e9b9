import LeakCheck.Check.Inspection
import LeakCheck.Proofs.Propagation.Hosts

/-!
# What an inspection tells

The analysis of a function reports the same leaks to whoever listens, as long as no report fails.
`Program.leaks` lists them all, and an inspection comes to those of them that are not suppressed
(`inspect_leaks`), with the same result (`inspect_result`).
-/

namespace LeakCheck

open Propagation (Host)

namespace Ssa

variable {σ τ ε : Type}

/-- Hosts that are alike see the same analysis of a function. -/
theorem Program.analyze_alike {host : Host σ ε} {host' : Host τ ε} {R : σ → τ → Prop}
    (h : host.Alike host' R) (p : Program) (secret : String) (f : Nat) {c : σ} {d : τ}
    (hcd : R c d) :
    (p.analyze secret host f c).1 = (p.analyze secret host' f d).1 ∧
      R (p.analyze secret host f c).2 (p.analyze secret host' f d).2 := by
  unfold analyze
  cases (p.get f).graph with
  | error e => exact ⟨rfl, hcd⟩
  | ok g =>
    obtain ⟨hresult, halike⟩ := h.run (p.analysis secret f g) g (s := ⟨[], c⟩) (t := ⟨[], d⟩) hcd
    have hclient := halike.client
    dsimp only
    generalize (p.analysis secret f g).run host g ⟨[], c⟩ = r at hresult hclient ⊢
    generalize (p.analysis secret f g).run host' g ⟨[], d⟩ = r' at hresult hclient ⊢
    obtain ⟨_ | sol, s⟩ := r
    all_goals
      obtain ⟨_, t⟩ := r'
      cases hresult
      exact ⟨rfl, hclient⟩

/-- A host that gathers the leaks. -/
def gatherer : Host (List Leak) Empty where
  note _ leaks := leaks
  report leak leaks := (none, leaks ++ [leak])

/-- The leaks that the analysis of a function reports, in their order. -/
def Program.leaks (p : Program) (secret : String) (f : Nat) : List Leak :=
  (p.analyze secret gatherer f []).2

/-- What the analysis of a function comes to when no report fails. -/
def Program.result (p : Program) (secret : String) (f : Nat) :
    Except (AnalyzeError Empty) Outcome :=
  (p.analyze secret gatherer f []).1

/-- The analysis refuses the functions without a body. -/
theorem Program.result_noBody_iff (p : Program) (secret : String) (f : Nat) :
    (∃ e, p.result secret f = .error (.noBody e)) ↔ (p.get f).graph.isOk = false := by
  unfold result analyze
  cases (p.get f).graph with
  | error e => exact ⟨fun _ => rfl, fun _ => ⟨e, rfl⟩⟩
  | ok g =>
    dsimp only
    generalize (p.analysis secret f g).run gatherer g ⟨[], []⟩ = r
    obtain ⟨_ | sol, s⟩ := r
    all_goals
      refine iff_of_false ?_ (fun h => nomatch h)
      rintro ⟨_, h⟩
      cases h

end Ssa

namespace Check

open Ssa (Program gatherer)

/-- The notes of an inspection hold the gathered leaks without the suppressed ones. -/
theorem noteTaker_alike (p : Program) (suppressed : Pos → Bool) (suppression : Leak → Log.Record)
    (f : Nat) :
    (noteTaker p suppressed suppression f).Alike gatherer fun notes leaks =>
      notes.2 = leaks.filter fun leak => !suppressed (leakPos p f leak) where
  note _ _ _ h := h
  report leak notes leaks h := by
    simp only [noteTaker, gatherer, List.filter_append]
    cases hsup : suppressed (leakPos p f leak) with
    | true => simp [hsup, h]
    | false => simp [hsup, h]

section
variable (p : Program) (secret : String) (suppressed : Pos → Bool)
  (suppression : Leak → Log.Record) (f : Nat)

/-- **An inspection finds the leaks that are not suppressed**, in the order they are reported. -/
theorem inspect_leaks :
    (inspect p secret suppressed suppression f).leaks =
      (p.leaks secret f).filter fun leak => !suppressed (leakPos p f leak) :=
  (Program.analyze_alike (noteTaker_alike p suppressed suppression f) p secret f rfl).2

/-- What is suppressed does not show in the result. -/
theorem inspect_result :
    (inspect p secret suppressed suppression f).result = p.result secret f :=
  (Program.analyze_alike (noteTaker_alike p suppressed suppression f) p secret f rfl).1

end

end Check

end LeakCheck
