import LeakCheck.Command.Run
import LeakCheck.Proofs.Batch.Accounting

/-!
# The exit status

The status of the command is decided by the failures and the leaks of its batch. Whatever the
schedule, status 0 certifies that everything was analysed and nothing leaks, status 3 that
everything was analysed and something leaks, and any failure or a cancellation gives status 1, also
when leaks were found and are printed (`Ready.exit_status`). The command that takes the functions
one after the other is one of those that this holds of (`Ready.run_outcome`).
-/

namespace LeakCheck

namespace Batch.Setting

/-! ## What goes wrong and what leaks -/

/-- No analysis fails or breaks down. -/
def NothingFails (b : Setting) : Prop :=
  ∀ f ∈ b.functions, b.excludes f = false → b.failure? f = none

/-- A function has a leak that no comment suppresses. -/
def Exposes (b : Setting) (f : Nat) : Prop := ∃ leak ∈ b.leaks f, b.suppresses f leak = false

section
variable {b : Setting} {t : State}

/-- A function without a body has no leaks. -/
theorem not_exposes_of_bodiless {f : Nat} (h : b.hasBody f = false) : ¬ b.Exposes f := by
  rintro ⟨leak, hleak, -⟩
  unfold hasBody at h
  unfold leaks Ssa.Program.leaks Ssa.Program.analyze at hleak
  cases hgraph : (b.loaded.program.get f).graph with
  | error e =>
    rw [hgraph] at hleak
    cases hleak
  | ok g =>
    rw [hgraph] at h
    cases h

/-- A batch comes to no failure if it is not cancelled and nothing fails in it. -/
theorem Completes.failures_eq_nil_iff (h : b.Completes t) :
    t.result.failures = [] ↔ t.cancelled = false ∧ b.NothingFails := by
  cases hcancelled : t.cancelled with
  | true =>
    obtain ⟨failures, -, heq⟩ := h.accounts.failures
    rw [heq, hcancelled]
    simp
  | false =>
    obtain ⟨failures, hperm, heq⟩ := (h.accounts_all hcancelled).failures
    have hnil : failures = [] ↔ b.NothingFails := by
      rw [← List.length_eq_zero_iff, hperm.length_eq, List.length_eq_zero_iff,
        List.filterMap_eq_nil_iff]
      simp [NothingFails]
    simp [heq, hnil]

/-- If nothing fails, a batch that is not cancelled comes to leaks if a function has one. -/
theorem Completes.leaks_ne_nil_iff (h : b.Completes t) (hcancelled : t.cancelled = false)
    (hnothing : b.NothingFails) :
    t.result.leaks ≠ [] ↔ ∃ f ∈ b.functions, b.excludes f = false ∧ b.Exposes f := by
  have hmem := (h.accounts_all hcancelled).mem_leaks
  constructor
  · intro hne
    obtain ⟨leak, hleak⟩ := List.exists_mem_of_ne_nil _ hne
    obtain ⟨f, hf, hcall, hsup⟩ := (hmem leak).1 hleak
    obtain ⟨hf, hincluded⟩ := List.mem_filter.1 hf
    have hincluded : b.excludes f = false := by simpa using hincluded
    rw [calls_eq_leaks (hnothing f hf hincluded)] at hcall
    exact ⟨f, hf, hincluded, leak, hcall, hsup⟩
  · rintro ⟨f, hf, hincluded, leak, hleak, hsup⟩
    rw [← calls_eq_leaks (hnothing f hf hincluded)] at hleak
    have hbegun : f ∈ b.functions.filter (!b.excludes ·) :=
      List.mem_filter.2 ⟨hf, by simp [hincluded]⟩
    exact List.ne_nil_of_mem ((hmem leak).2 ⟨f, hbegun, hleak, hsup⟩)

/-- Nothing leaks if every function is excluded, has no body or has all its leaks suppressed. -/
theorem forall_not_exposes_iff :
    (∀ f ∈ b.functions, b.excludes f = true ∨ b.hasBody f = false ∨ ¬ b.Exposes f) ↔
      ¬ ∃ f ∈ b.functions, b.excludes f = false ∧ b.Exposes f := by
  constructor
  · rintro h ⟨f, hf, hincluded, hexposes⟩
    rcases h f hf with hexcluded | hbodiless | hnot
    · exact Bool.false_ne_true (hincluded.symm.trans hexcluded)
    · exact not_exposes_of_bodiless hbodiless hexposes
    · exact hnot hexposes
  · intro h f hf
    cases hexcluded : b.excludes f with
    | true => exact .inl rfl
    | false => exact .inr (.inr fun hexposes => h ⟨f, hf, hexcluded, hexposes⟩)

end

end Batch.Setting

namespace Command

open Batch (Breakdown Setting State)
open Log (Logger Sinks)

/-- The status is decided by the failures, and if there are none by the leaks. -/
theorem Outcome.ofResult_status (p : Ssa.Program) (r : Batch.Result) (sinks : Sinks) :
    (Outcome.ofResult p r sinks).status =
      if r.failures = [] then if r.leaks = [] then 0 else 3 else 1 := by
  obtain ⟨leaks, analyzed, excluded, failures⟩ := r
  cases failures with
  | cons e rest => rfl
  | nil =>
    cases leaks with
    | nil => rfl
    | cons leak rest => rfl

section
variable {b : Setting} {t : State} (p : Ssa.Program) (sinks : Sinks)

/-- Status 0: everything was analysed and nothing leaks. -/
theorem status_eq_zero_iff (h : b.Completes t) :
    (Outcome.ofResult p t.result sinks).status = 0 ↔
      t.cancelled = false ∧ b.NothingFails ∧
        ∀ f ∈ b.functions, b.excludes f = true ∨ b.hasBody f = false ∨ ¬ b.Exposes f := by
  rw [Outcome.ofResult_status, ← and_assoc, ← h.failures_eq_nil_iff,
    Setting.forall_not_exposes_iff]
  by_cases hfailures : t.result.failures = []
  · obtain ⟨hcancelled, hnothing⟩ := h.failures_eq_nil_iff.1 hfailures
    rw [← h.leaks_ne_nil_iff hcancelled hnothing]
    simp [hfailures]
  · simp [hfailures]

/-- Status 3: everything was analysed and something leaks. -/
theorem status_eq_three_iff (h : b.Completes t) :
    (Outcome.ofResult p t.result sinks).status = 3 ↔
      t.cancelled = false ∧ b.NothingFails ∧
        ∃ f ∈ b.functions, b.excludes f = false ∧ b.Exposes f := by
  rw [Outcome.ofResult_status, ← and_assoc, ← h.failures_eq_nil_iff]
  by_cases hfailures : t.result.failures = []
  · obtain ⟨hcancelled, hnothing⟩ := h.failures_eq_nil_iff.1 hfailures
    rw [← h.leaks_ne_nil_iff hcancelled hnothing]
    simp [hfailures]
  · simp [hfailures]

/-- Status 1: the batch was cancelled or something failed. -/
theorem status_eq_one_iff (h : b.Completes t) :
    (Outcome.ofResult p t.result sinks).status = 1 ↔ t.cancelled = true ∨ ¬ b.NothingFails := by
  have hgood : t.cancelled = true ∨ ¬ b.NothingFails ↔ ¬ t.result.failures = [] := by
    rw [h.failures_eq_nil_iff, not_and_or, Bool.not_eq_false]
  rw [Outcome.ofResult_status, hgood]
  by_cases hfailures : t.result.failures = []
  · by_cases hleaks : t.result.leaks = []
    · simp [hfailures, hleaks]
    · simp [hfailures, hleaks]
  · simp [hfailures]

end

/-! ## The command -/

/-- The command has read its arguments and its configuration, set up the logger and loaded the
packages. -/
structure Ready (i : Invocation) where
  /-- The arguments as they were read. -/
  given : Given
  /-- What is asked for. -/
  plan : Plan
  /-- The logger. -/
  logger : Logger
  /-- The files after the logger was set up. -/
  workspace : Storage.Workspace
  /-- The program. -/
  loaded : Batch.Loaded
  read_args : Given.read i.args = .ok given
  no_help : given.get? .help ≠ some (.truth true)
  has_args : given.args ≠ []
  planned : Command.plan given i.environment i.workspace = .ok plan
  set_up : Logger.setup plan.log i.workspace = (.ok logger, workspace)
  loads : i.loading.get given.args = .ok loaded

namespace Ready

variable {i : Invocation} (r : Ready i)

/-- The batch of the command, with the breakdowns that happen in it. -/
def setting (breakdown? : Nat → Option Breakdown) : Setting :=
  { loaded := r.loaded, conf := r.plan.conf, breakdown? }

/-- What the command does when its batch stops in a state. -/
def outcome (t : State) (sinks : Sinks) : Outcome :=
  .ofResult r.loaded.program t.result sinks

/-- How the batch of the command is run. -/
def options : Batch.Options :=
  { concurrency := r.plan.concurrency, processors := i.processors }

theorem loaded_eq : i.loading.loaded = r.loaded := by
  have hloads := r.loads
  unfold Batch.Loading.get at hloads
  split at hloads
  · cases hloads
  · split_ifs at hloads
    exact Except.ok.inj hloads

theorem run_eq :
    run i = .ofResult r.loaded.program
      (r.loaded.analyze r.plan.conf r.options r.logger { workspace := r.workspace }).1
      (r.loaded.analyze r.plan.conf r.options r.logger { workspace := r.workspace }).2 := by
  have hrun : run i = analyze i r.given := by
    simp [run, r.read_args, r.no_help, r.has_args]
  rw [hrun]
  simp only [analyze, r.planned, r.set_up, Batch.run, r.loads, r.loaded_eq]
  rfl

/-- **The command that runs is the command under one of the schedules.** Its batch takes the
functions one after the other, and nothing breaks down. -/
theorem run_outcome :
    ∃ t sinks, (r.setting fun _ => none).Completes t ∧ t.cancelled = false ∧
      run i = r.outcome t sinks := by
  obtain ⟨t, hcompletes, hcancelled, hresult⟩ := r.loaded.analyze_completes r.plan.conf r.options
    r.logger { workspace := r.workspace }
  have hrun := r.run_eq
  rw [hresult] at hrun
  exact ⟨t, _, hcompletes, hcancelled, hrun⟩

/-- Status 0 of the command that runs certifies that nothing fails and nothing leaks. -/
theorem run_status_eq_zero_iff :
    let b := r.setting fun _ => none
    (run i).status = 0 ↔ b.NothingFails ∧
      ∀ f ∈ b.functions, b.excludes f = true ∨ b.hasBody f = false ∨ ¬ b.Exposes f := by
  intro b
  obtain ⟨t, sinks, hcompletes, hcancelled, hrun⟩ := r.run_outcome
  rw [hrun]
  exact (status_eq_zero_iff _ _ hcompletes).trans (and_iff_right hcancelled)

end Ready

namespace Sample

open Batch.Sample (mixed)

/-- The functions of `mixed` are analysed with the default configuration. -/
def invocation : Invocation where
  args := ["./p"]
  loading := { roots := 1, loaded := mixed.loaded }

def ready : Ready invocation where
  given := { args := ["./p"] }
  plan := { conf := { secret := "getSecret" }, log := {}, concurrency := 0 }
  logger := {}
  workspace := {}
  loaded := mixed.loaded
  read_args := by decide +kernel
  no_help := by decide +kernel
  has_args := by decide
  planned := rfl
  set_up := rfl
  loads := rfl

end Sample

end Command

end LeakCheck
