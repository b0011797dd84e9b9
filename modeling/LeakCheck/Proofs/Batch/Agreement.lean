import LeakCheck.Proofs.Batch.Accounting
import LeakCheck.Proofs.Check.Package
import LeakCheck.Proofs.Propagation.Facts
import LeakCheck.Proofs.Ssa.Source

/-!
# A package check and a batch find the same

The check of a package and a batch look for the comments of a function in different ways: the one in
the package that it checks, the other in the package of the outermost function, or of the generic
function behind it. Where these are one package (`Loaded.Shares`) the same positions are suppressed,
and since the leaks of a function name it (`Program.proc_of_mem_leaks`), what a batch has received
for a function can be told from the rest under every schedule (`Completes.received_of`). So both
exclude the same functions and say the same about the others (`Completes.agrees_with_check`).
-/

namespace LeakCheck

open Propagation (Host)

/-! ## The leaks of a function -/

namespace Ssa

/-- What a host gathers is what it is given. -/
theorem gatherer_alike : gatherer.Alike gatherer.recorded fun leaks c => leaks = c.2 where
  note _ _ _ h := h
  report leak _ _ h := ⟨rfl, congrArg (· ++ [leak]) h⟩

/-- The leaks of a function are the reports of its analysis. -/
theorem Program.leaks_eq_reports (p : Program) (secret : String) {f : Nat} {g : Graph}
    (hg : (p.get f).graph = .ok g) :
    p.leaks secret f = (p.analysis secret f g).reports gatherer g ⟨[], []⟩ := by
  have hclient : ((p.analysis secret f g).run gatherer g ⟨[], []⟩).2.client =
      (p.analysis secret f g).reports gatherer g ⟨[], []⟩ :=
    (gatherer_alike.run (p.analysis secret f g) g rfl).2.client
  rw [← hclient, leaks, analyze_snd hg]

/-- The leaks of a function name it. -/
theorem Program.proc_of_mem_leaks {p : Program} {secret : String} {f : Nat} {leak : Leak}
    (h : leak ∈ p.leaks secret f) : leak.proc = p.procedure f := by
  cases hg : (p.get f).graph with
  | error e =>
    rw [leaks, analyze, hg] at h
    cases h
  | ok g =>
    rw [p.leaks_eq_reports secret hg] at h
    cases hd : g.defect? with
    | some d =>
      rw [Propagation.Analysis.reports, Propagation.Analysis.run_of_defect _ _ _ hd] at h
      cases h
    | none =>
      have hnever : gatherer.NeverFails := fun _ _ => rfl
      obtain ⟨_, -, -, -, -, hmem⟩ := (p.analysis secret f g).reports_ok hnever hd ⟨[], []⟩
      exact ((hmem leak).1 h).1

end Ssa

namespace Batch

/-! ## Comments -/

/-- A loaded program and a package that is checked share the source of a function: the function is
declared, through finitely many others, in an outermost one, and the package of that one, or of the
generic function it is an instance of, was loaded with the files and the comments of the package
that is checked. -/
structure Loaded.Shares (l : Loaded) (k : Check.Package) (f : Nat) : Prop where
  program : l.program = k.program
  source : ∃ n r path, k.program.OutermostIn n f r ∧
    (k.program.get ((k.program.get r).origin.getD r)).path = some path ∧
    (∃ q ∈ l.packages, q.path = path) ∧
    ∀ q ∈ l.packages, q.path = path → q.source = k.source ∧ q.marked = k.source.suppressed

/-- In a shared source the same positions are suppressed. -/
theorem Loaded.Shares.isSuppressed {l : Loaded} {k : Check.Package} {f : Nat} (h : l.Shares k f)
    (pos : Pos) :
    l.isSuppressed f pos = k.source.isSuppressedAt k.source.suppressed pos := by
  obtain ⟨n, r, path, hwalk, hpath, ⟨q₀, hq₀, hpath₀⟩, hsame⟩ := h.source
  unfold Loaded.isSuppressed
  rw [h.program, hwalk.source_eq, hpath]
  dsimp only
  split
  · next q hfind =>
    have hq : q.path = path := by simpa using List.find?_some hfind
    obtain ⟨hsource, hmarked⟩ := hsame q (List.mem_of_find?_eq_some hfind) hq
    rw [hsource, hmarked]
  · next hfind =>
    have hnone := List.find?_eq_none.1 hfind q₀ hq₀
    simp [hpath₀] at hnone

/-! ## What a batch receives for a function -/

theorem Loaded.mem_sourceFunctions {l : Loaded} {f : Nat} :
    f ∈ l.sourceFunctions ↔ f ∈ l.functions ∧ l.isSource f = true :=
  Text.mem_sortByText.trans List.mem_filter

theorem Loaded.nodup_sourceFunctions {l : Loaded} (h : l.functions.Nodup) :
    l.sourceFunctions.Nodup :=
  (Text.sortByText_perm ..).nodup_iff.2 (h.filter _)

namespace Setting

variable {b : Setting} {t : State}

theorem Completes.nodup_begun (h : b.Completes t) (hfunctions : b.loaded.functions.Nodup) :
    t.begun.Nodup := by
  have hvisited : t.visited.Nodup :=
    (Loaded.nodup_sourceFunctions hfunctions).sublist h.visited_order.sublist
  obtain ⟨_, hperm, hsub⟩ := h.begun_subperm
  exact hperm.nodup_iff.1 ((hvisited.filter _).sublist hsub)

theorem calls_subset_leaks (b : Setting) (f : Nat) : b.calls f ⊆ b.leaks f := by
  unfold calls task
  rcases b.breakdown? f with _ | _ | _
  · exact List.Subset.refl _
  · exact List.nil_subset _
  · exact (List.take_sublist _ _).subset

theorem proc_of_mem_delivers {f : Nat} {leak : Leak} (h : leak ∈ b.delivers f) :
    leak.proc = b.loaded.program.procedure f :=
  Ssa.Program.proc_of_mem_leaks (b.calls_subset_leaks f (List.mem_filter.1 h).1)

/-- Of what functions deliver, what names a function comes from it. -/
theorem filter_flatMap_delivers (b : Setting) {functions : List Nat} (hnodup : functions.Nodup)
    {f : Nat} (hf : f ∈ functions) :
    (functions.flatMap b.delivers).filter (·.proc = b.loaded.program.procedure f) =
      b.delivers f := by
  have hother : ∀ g ≠ f, (b.delivers g).filter (·.proc = b.loaded.program.procedure f) = [] := by
    intro g hg
    refine List.filter_eq_nil_iff.2 fun leak hleak => ?_
    rw [proc_of_mem_delivers hleak, decide_eq_true_eq]
    exact fun hproc => hg (congrArg Procedure.id hproc)
  have hself : (b.delivers f).filter (·.proc = b.loaded.program.procedure f) = b.delivers f :=
    List.filter_eq_self.2 fun leak hleak => decide_eq_true (proc_of_mem_delivers hleak)
  obtain ⟨before, after, rfl⟩ := List.append_of_mem hf
  rw [List.nodup_append, List.nodup_cons] at hnodup
  obtain ⟨-, ⟨hafter, -⟩, hbefore⟩ := hnodup
  have hnone : ∀ gs : List Nat, f ∉ gs →
      (gs.flatMap b.delivers).filter (·.proc = b.loaded.program.procedure f) = [] := by
    intro gs hgs
    rw [List.filter_flatMap, List.flatMap_eq_nil_iff]
    exact fun g hg => hother g fun heq => hgs (heq ▸ hg)
  rw [List.flatMap_append, List.flatMap_cons, List.filter_append, List.filter_append, hself,
    hnone before fun hmem => hbefore f hmem f (List.mem_cons_self ..) rfl, hnone after hafter,
    List.nil_append, List.append_nil]

/-- **Under every schedule the collector receives for a function what that delivers.** -/
theorem Completes.received_of (h : b.Completes t) (hfunctions : b.loaded.functions.Nodup)
    {f : Nat} (hf : f ∈ t.begun) :
    (t.tally.collector.received.filter (·.proc = b.loaded.program.procedure f)).Perm
      (b.delivers f) := by
  rw [← b.filter_flatMap_delivers (h.nodup_begun hfunctions) hf]
  exact h.booked.1.filter _

theorem Completes.excludes_of_mem_begun (h : b.Completes t) {f : Nat} (hf : f ∈ t.begun) :
    b.excludes f = false := by
  have hmem := (List.mem_filter.1 (h.begun_subperm.subset hf)).2
  simpa using hmem

/-- A function that does not break down delivers its leaks at positions that no comment of the
shared source suppresses. -/
theorem delivers_of_shares {k : Check.Package} {f : Nat} (hshares : b.loaded.Shares k f)
    (hunbroken : b.breakdown? f = none) :
    b.delivers f = (k.program.leaks b.conf.secret f).filter fun leak =>
      !k.source.isSuppressedAt k.source.suppressed (Check.leakPos k.program f leak) := by
  have hcalls : b.calls f = k.program.leaks b.conf.secret f := by
    unfold calls task
    rw [hunbroken, ← hshares.program]
    rfl
  have hsuppresses : ∀ leak, b.suppresses f leak =
      k.source.isSuppressedAt k.source.suppressed (Check.leakPos k.program f leak) := by
    intro leak
    rw [suppresses, hshares.isSuppressed, hshares.program]
  simp only [delivers, hcalls, hsuppresses]

/-- **The check of a package and a batch agree about a function** whose source they share. A check
that can log and in which no analysis fails gives what is said about the functions of the package,
and no other check succeeds. It excludes the function if and only if the batch does, and if the
batch analyses it, under any schedule and without a breakdown, the origins and positions of the
diagnostics are those of the leaks that the collector receives for it, each as often. -/
theorem Completes.agrees_with_check (h : b.Completes t) (hfunctions : b.loaded.functions.Nodup)
    {k : Check.Package} {f : Nat} (hshares : b.loaded.Shares k f) :
    (∀ s found, (k.check b.conf s).1 = .ok found ↔
      (∃ logger workspace,
        Log.Logger.setup { level := b.conf.logLevel } s.workspace = (.ok logger, workspace)) ∧
      (∀ g ∈ k.functions, Check.isExcluded b.conf k.program g = false → ¬ k.Fails b.conf g) ∧
      found = k.functions.flatMap fun g => (k.diagnosed b.conf g).map (·.2)) ∧
    (Check.isExcluded b.conf k.program f = true ↔ b.excludes f = true) ∧
    (t.cancelled = false → f ∈ b.functions →
      (Check.isExcluded b.conf k.program f = true ↔ f ∉ t.begun)) ∧
    (f ∈ t.begun → b.breakdown? f = none →
      Check.isExcluded b.conf k.program f = false ∧
      ((k.diagnosed b.conf f).map fun d => (d.1, d.2.pos)).Perm
        ((t.tally.collector.received.filter (·.proc = b.loaded.program.procedure f)).map
          fun leak => (leak.origin, Check.leakPos b.loaded.program f leak))) := by
  have hexcluded : Check.isExcluded b.conf k.program f = b.excludes f := by
    rw [excludes, hshares.program]
  refine ⟨fun s found => k.check_ok_iff b.conf, by rw [hexcluded], ?_, ?_⟩
  · intro hcancelled hf
    rw [hexcluded, (h.begun_perm hcancelled).mem_iff, List.mem_filter]
    simp [hf]
  · intro hf hunbroken
    have hincluded := hexcluded.trans (h.excludes_of_mem_begun hf)
    refine ⟨hincluded, ?_⟩
    rw [k.map_diagnosed b.conf hincluded, ← delivers_of_shares hshares hunbroken,
      ← hshares.program]
    exact ((h.received_of hfunctions hf).map _).symm

end Setting

/-! ## A function within a function -/

namespace Sample

open Ssa (Function)

/-- A function that obtains a secret, sends it at a position and gives it back at none. -/
def sending (text name : String) (parent : Option Nat) : Function where
  text := text
  name := name
  pos := 3
  parent := parent
  path := some "p"
  blocks := [{ instrs := [
    { form := "Call", text := "getSecret()", pos := 4, result := some 2,
      operation := .call ⟨1, false, [], 0, .known "getSecret" none⟩ },
    { form := "Call", text := "invoke s.Send(t0)", pos := 5, result := some 3,
      operation := .call ⟨0, false, [2], 1, .method "Send"⟩ },
    { form := "Return", text := "return t0", operation := .giveBack [2] }] }]
  values := #[{ name := "getSecret" }, { name := "s" }, { name := "t0" }, { name := "t1" }]

/-- The function `1` is declared in the function `0`. -/
def nested : Ssa.Program where
  functions := #[{ text := "p.F", name := "F", path := some "p" }, sending "p.F$1" "F$1" (some 0)]

/-- The statement at position 5 has a comment that suppresses it. -/
def commented : Suppression.Source where
  files := [{ pos := 1, stop := 9, comments := [(0, [["//secretflow:ignore"]])],
              paths := [(5, [0, 1])] }]
  nodes := #[⟨"ExprStmt", 5, 6, true, none, none⟩, ⟨"File", 1, 9, false, none, none⟩]

/-- The package as it is checked. -/
def nestedPackage : Check.Package := ⟨nested, [0, 1], commented⟩

/-- The package as it is loaded for a batch, under a configuration that excludes nothing. -/
def nestedSetting : Setting where
  loaded := { program := nested, packages := [{ path := "p", source := commented }],
              functions := [0, 1] }
  conf := { secret := "getSecret" }

theorem nested_shares : nestedSetting.loaded.Shares nestedPackage 1 where
  program := rfl
  source := by
    refine ⟨1, 0, "p", .outwards rfl (.self rfl), rfl, ⟨_, List.mem_singleton_self _, rfl⟩, ?_⟩
    intro q hq _
    cases List.mem_singleton.1 hq
    exact ⟨rfl, rfl⟩

/-- The inner function leaks twice. The comment of the file of the outer one suppresses the one
leak, and the other has the position of the function, in both. -/
theorem nested_agrees_with_check :
    ∃ t, nestedSetting.Completes t ∧ 1 ∈ t.begun ∧
      (nestedPackage.diagnosed nestedSetting.conf 1).map (fun d => (d.1, d.2.pos)) =
        [(some ⟨0, "t0 = getSecret()", 4⟩, 3)] ∧
      ((nestedPackage.diagnosed nestedSetting.conf 1).map fun d => (d.1, d.2.pos)).Perm
        ((t.tally.collector.received.filter (·.proc = nested.procedure 1)).map
          fun leak => (leak.origin, Check.leakPos nested 1 leak)) := by
  obtain ⟨t, hrun, hcancelled⟩ : ∃ t, nestedSetting.Completes t ∧ t.cancelled = false :=
    ⟨_, nestedSetting.completes_in_order, rfl⟩
  obtain ⟨-, -, hbegun, hsame⟩ := hrun.agrees_with_check (by decide) nested_shares
  have hincluded : Check.isExcluded nestedSetting.conf nestedPackage.program 1 = false := rfl
  have htaken : 1 ∈ nestedSetting.functions := Loaded.mem_sourceFunctions.2 (by decide +kernel)
  have hmem : 1 ∈ t.begun := by
    by_contra hnot
    have hexcluded := (hbegun hcancelled htaken).2 hnot
    rw [hincluded] at hexcluded
    cases hexcluded
  exact ⟨t, hrun, hmem, by decide +kernel, (hsame hmem rfl).2⟩

end Sample

end Batch

end LeakCheck
