import LeakCheck.Check.Package
import LeakCheck.Proofs.Check.Inspection

/-!
# What the check of a package says

The functions of a package are checked one after the other, and `Package.diagnosed` is what is said
about one of them. A check succeeds if and only if it can log and no analysis fails, and then it
says about the functions what is said about each (`Package.check_ok_iff`).
-/

namespace LeakCheck.Check.Package

variable (k : Package) (conf : Config)

/-- What is said about a function of a package: a diagnostic for each leak, with its origin. -/
def diagnosed (f : Nat) : List (Vertex × Diagnostic) :=
  if isExcluded conf k.program f then []
  else (k.inspect conf k.source.suppressed f).leaks.map fun leak =>
    (leak.origin, diagnostic conf k.program f leak)

/-- The analysis of a function fails, otherwise than for want of a body. -/
def Fails (f : Nat) : Prop := ∃ e, k.program.result conf.secret f = .error (.failed e)

/-- What a check makes of a function that is not excluded. -/
theorem conclude_inspect (logger : Log.Logger) (f : Nat) (s : Log.Sinks) :
    (conclude conf logger k.program f (k.inspect conf k.source.suppressed f) s).1 =
      .ofResult (k.program.result conf.secret f) :=
  congrArg Status.ofResult (inspect_result ..)

theorem fails_iff {f : Nat} :
    k.Fails conf f ↔ ∃ e, Status.ofResult (k.program.result conf.secret f) = .failed e := by
  unfold Fails
  cases k.program.result conf.secret f with
  | ok o => simp [Status.ofResult]
  | error e =>
    cases e with
    | noBody e => simp [Status.ofResult]
    | failed e => simp [Status.ofResult]

/-- A check succeeds iff no analysis fails, and gives what is said about the functions, one after
the other. -/
theorem checkAll_ok_iff {logger : Log.Logger} {functions : List Nat}
    {found found' : List Diagnostic} {s : Log.Sinks} :
    (k.checkAll conf logger k.source.suppressed functions found s).1 = .ok found' ↔
      (∀ f ∈ functions, isExcluded conf k.program f = false → ¬ k.Fails conf f) ∧
        found' = found ++ functions.flatMap fun f => (k.diagnosed conf f).map (·.2) := by
  induction functions generalizing found s with
  | nil =>
    rw [checkAll, List.flatMap_nil, List.append_nil, Except.ok.injEq]
    exact ⟨fun h => ⟨fun _ hf => (nomatch hf), h.symm⟩, fun h => h.2.symm⟩
  | cons f rest ih =>
    rw [checkAll, List.flatMap_cons, List.forall_mem_cons]
    split
    case isTrue hexcluded =>
      have hsaid : (k.diagnosed conf f).map (·.2) = [] := by rw [diagnosed, if_pos hexcluded]; rfl
      rw [ih, hsaid]
      simp [hexcluded]
    case isFalse hincluded =>
      have hsaid : (k.diagnosed conf f).map (·.2) =
          (k.inspect conf k.source.suppressed f).leaks.map (diagnostic conf k.program f) := by
        rw [diagnosed, if_neg hincluded, List.map_map]
        rfl
      have hstatus := k.conclude_inspect conf logger f s
      dsimp only
      split
      · next e s' heq =>
        rw [heq] at hstatus
        have hfails : k.Fails conf f := (k.fails_iff conf).2 ⟨e, hstatus.symm⟩
        simp [hincluded, hfails]
      · next status s' hnot heq =>
        rw [heq] at hstatus
        have hpasses : ¬ k.Fails conf f := by
          intro hfails
          obtain ⟨e, he⟩ := (k.fails_iff conf).1 hfails
          exact hnot e (hstatus.trans he)
        rw [ih, hsaid, List.append_assoc]
        simp [hpasses]

theorem check_ok_iff {s : Log.Sinks} {found : List Diagnostic} :
    (k.check conf s).1 = .ok found ↔
      (∃ logger workspace,
        Log.Logger.setup { level := conf.logLevel } s.workspace = (.ok logger, workspace)) ∧
      (∀ f ∈ k.functions, isExcluded conf k.program f = false → ¬ k.Fails conf f) ∧
      found = k.functions.flatMap fun f => (k.diagnosed conf f).map (·.2) := by
  unfold check
  split
  · next e workspace hsetup => simp [hsetup]
  · next logger workspace hsetup =>
    rw [checkAll_ok_iff]
    simp [hsetup]

/-- The origins and positions of what is said about a function that is not excluded. -/
theorem map_diagnosed {f : Nat} (hincluded : isExcluded conf k.program f = false) :
    (k.diagnosed conf f).map (fun d => (d.1, d.2.pos)) =
      ((k.program.leaks conf.secret f).filter fun leak =>
        !k.source.isSuppressedAt k.source.suppressed (leakPos k.program f leak)).map
        fun leak => (leak.origin, leakPos k.program f leak) := by
  rw [diagnosed, if_neg (by simp [hincluded]), inspect, inspect_leaks, List.map_map]
  rfl

end LeakCheck.Check.Package
