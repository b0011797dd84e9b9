import LeakCheck.Command.Report
import LeakCheck.Proofs.List.Distinct
import LeakCheck.Proofs.Text.ByteOrder
import Mathlib.Data.Finset.Card

/-!
# The leaks in the printed report

The report lists leaks in groups, each under the name of its procedure. `Leak.Grouped` says what the
groups of a list of leaks have to be, without saying how they are found: names ascend byte by byte,
no group is empty, each leak stands in the group of its procedure, no group changes the order of its
leaks, and the groups together hold the leaks of the list, each as often as the list does. There are
no other groups of that kind (`Leak.Grouped.unique`), and those that are printed are of that kind
(`Leak.grouped_byProcedure`).

Leaks are gathered one by one under the names of their procedures, and the names are taken in some
order and sorted. What comes out does not depend on the order in which they are taken
(`Leak.byProcedure_eq_gathered`).
-/

namespace LeakCheck

namespace Leak

/-- The groups that a list of leaks falls into. -/
structure Grouped (leaks : List Leak) (groups : List (String × List Leak)) : Prop where
  /-- The names ascend strictly in the order of their bytes. -/
  ascending : groups.Pairwise fun g h => Text.bytes g.1 < Text.bytes h.1
  /-- No name stands without a leak. -/
  nonempty : ∀ g ∈ groups, g.2 ≠ []
  /-- Each leak stands under the name of its procedure. -/
  heading_eq : ∀ g ∈ groups, ∀ leak ∈ g.2, leak.proc.text = g.1
  /-- The leaks under a name keep the order of the list. -/
  sublist : ∀ g ∈ groups, g.2.Sublist leaks
  /-- All leaks of the list are there, each as often as in the list. -/
  perm : (groups.flatMap Prod.snd).Perm leaks

/-! ## There is one way to group leaks -/

section
variable {leaks : List Leak} {groups : List (String × List Leak)}

/-- Of groups with distinct names, a name selects the leaks of its own. -/
theorem filter_flatMap_of_mem (hnames : (groups.map Prod.fst).Nodup)
    (hheading : ∀ g ∈ groups, ∀ leak ∈ g.2, leak.proc.text = g.1) {g : String × List Leak}
    (hg : g ∈ groups) : (groups.flatMap Prod.snd).filter (·.proc.text == g.1) = g.2 := by
  induction groups with
  | nil => cases hg
  | cons first rest ih =>
    have hfirst := hheading first List.mem_cons_self
    have hrest : ∀ h ∈ rest, ∀ leak ∈ h.2, leak.proc.text = h.1 :=
      fun h hh => hheading h (List.mem_cons_of_mem _ hh)
    obtain ⟨hnew, hdistinct⟩ := List.nodup_cons.1 hnames
    rw [List.flatMap_cons, List.filter_append]
    rcases List.mem_cons.1 hg with rfl | hmem
    · have hall : g.2.filter (·.proc.text == g.1) = g.2 := by
        rw [List.filter_eq_self]
        intro leak hleak
        simp [hfirst leak hleak]
      have hnone : (rest.flatMap Prod.snd).filter (·.proc.text == g.1) = [] := by
        rw [List.filter_eq_nil_iff]
        intro leak hleak heq
        obtain ⟨h, hh, hleak⟩ := List.mem_flatMap.1 hleak
        have hname : h.1 = g.1 := (hrest h hh leak hleak).symm.trans (by simpa using heq)
        exact hnew (hname ▸ List.mem_map_of_mem hh)
      rw [hall, hnone, List.append_nil]
    · have hnone : first.2.filter (·.proc.text == g.1) = [] := by
        rw [List.filter_eq_nil_iff]
        intro leak hleak heq
        have hname : first.1 = g.1 := (hfirst leak hleak).symm.trans (by simpa using heq)
        exact hnew (hname ▸ List.mem_map_of_mem hmem)
      rw [hnone, List.nil_append]
      exact ih hdistinct hrest hmem

namespace Grouped

theorem ascending_names (h : Grouped leaks groups) :
    (groups.map Prod.fst).Pairwise fun s t => Text.bytes s < Text.bytes t :=
  List.pairwise_map.2 h.ascending

theorem nodup (h : Grouped leaks groups) : (groups.map Prod.fst).Nodup := by
  refine h.ascending_names.imp ?_
  intro s t hlt heq
  rw [heq] at hlt
  exact List.lt_irrefl _ hlt

/-- The leaks under a name are those of the list with that name, in their order. -/
theorem snd_eq (h : Grouped leaks groups) {g : String × List Leak} (hg : g ∈ groups) :
    g.2 = leaks.filter (·.proc.text == g.1) := by
  have hsub : g.2.Sublist (leaks.filter (·.proc.text == g.1)) := by
    have hfilter := (h.sublist g hg).filter (·.proc.text == g.1)
    rwa [List.filter_eq_self.2 fun leak hleak => by simp [h.heading_eq g hg leak hleak]] at hfilter
  have hperm := h.perm.filter (·.proc.text == g.1)
  rw [filter_flatMap_of_mem h.nodup h.heading_eq hg] at hperm
  exact hsub.eq_of_length hperm.length_eq

/-- The names are those that occur. -/
theorem mem_names (h : Grouped leaks groups) {name : String} :
    name ∈ groups.map Prod.fst ↔ name ∈ leaks.map (·.proc.text) := by
  rw [List.mem_map, List.mem_map]
  constructor
  · rintro ⟨g, hg, rfl⟩
    obtain ⟨leak, hleak⟩ := List.exists_mem_of_ne_nil g.2 (h.nonempty g hg)
    exact ⟨leak, (h.sublist g hg).subset hleak, h.heading_eq g hg leak hleak⟩
  · rintro ⟨leak, hleak, rfl⟩
    obtain ⟨g, hg, hleak⟩ := List.mem_flatMap.1 (h.perm.mem_iff.2 hleak)
    exact ⟨g, hg, (h.heading_eq g hg leak hleak).symm⟩

/-- There is one group for each name that occurs. -/
theorem length_eq (h : Grouped leaks groups) :
    groups.length = (leaks.map (·.proc.text)).toFinset.card := by
  have hset : (groups.map Prod.fst).toFinset = (leaks.map (·.proc.text)).toFinset := by
    ext name
    rw [List.mem_toFinset, List.mem_toFinset, h.mem_names]
  rw [← hset, List.toFinset_card_of_nodup h.nodup, List.length_map]

/-- There are no other groups. -/
theorem unique {others : List (String × List Leak)} (h : Grouped leaks groups)
    (h' : Grouped leaks others) : groups = others := by
  have hnames : groups.map Prod.fst = others.map Prod.fst := by
    have hperm : (groups.map Prod.fst).Perm (others.map Prod.fst) := by
      rw [List.perm_ext_iff_of_nodup h.nodup h'.nodup]
      intro name
      rw [h.mem_names, h'.mem_names]
    refine hperm.eq_of_pairwise ?_ h.ascending_names h'.ascending_names
    intro s t _ _ hst hts
    exact absurd hts (List.lt_asymm hst)
  have hdetermined : ∀ {gs : List (String × List Leak)}, Grouped leaks gs →
      gs = (gs.map Prod.fst).map fun name => (name, leaks.filter (·.proc.text == name)) := by
    intro gs hgs
    rw [List.map_map]
    refine (List.map_id gs).symm.trans (List.map_congr_left fun g hg => ?_)
    exact Prod.ext rfl (hgs.snd_eq hg)
  rw [hdetermined h, hdetermined h', hnames]

end Grouped

end

/-! ## The printed groups -/

/-- The leaks under the names that occur are all leaks. -/
theorem flatMap_filter_perm {names : List String} (hnames : names.Nodup) {leaks : List Leak}
    (hall : ∀ leak ∈ leaks, leak.proc.text ∈ names) :
    (names.flatMap fun name => leaks.filter (·.proc.text == name)).Perm leaks := by
  induction names generalizing leaks with
  | nil =>
    have hnil : leaks = [] := List.eq_nil_iff_forall_not_mem.2 fun leak hleak => by
      simpa using hall leak hleak
    rw [hnil]
    exact List.Perm.nil
  | cons name rest ih =>
    obtain ⟨hnew, hdistinct⟩ := List.nodup_cons.1 hnames
    -- the leaks under the other names are those that the first name leaves over
    have hothers : ∀ other ∈ rest, leaks.filter (·.proc.text == other) =
        (leaks.filter fun leak => !(leak.proc.text == name)).filter (·.proc.text == other) := by
      intro other hother
      rw [List.filter_filter]
      refine List.filter_congr fun leak _ => ?_
      have hne : other ≠ name := fun heq => hnew (heq ▸ hother)
      by_cases heq : leak.proc.text = other
      · simp [heq, hne]
      · simp [heq]
    have hleft : ∀ leak ∈ leaks.filter fun leak => !(leak.proc.text == name),
        leak.proc.text ∈ rest := by
      intro leak hleak
      obtain ⟨hleak, hne⟩ := List.mem_filter.1 hleak
      exact (List.mem_cons.1 (hall leak hleak)).resolve_left (by simpa using hne)
    rw [List.flatMap_cons, List.flatMap_congr hothers]
    exact ((ih hdistinct hleft).append_left _).trans
      (List.filter_append_perm (·.proc.text == name) leaks)

/-- Names that are distinct, in their order and those that occur lead to the groups. -/
theorem grouped_of_names {leaks : List Leak} {names : List String}
    (hascending : names.Pairwise (· < ·))
    (hmem : ∀ name, name ∈ names ↔ name ∈ leaks.map (·.proc.text)) :
    Grouped leaks (names.map fun name => (name, leaks.filter (·.proc.text == name))) where
  ascending := List.pairwise_map.2 (hascending.imp fun hlt => (Text.lt_iff_bytes_lt _ _).1 hlt)
  nonempty := by
    intro g hg hnil
    obtain ⟨name, hname, rfl⟩ := List.mem_map.1 hg
    obtain ⟨leak, hleak, hheading⟩ := List.mem_map.1 ((hmem name).1 hname)
    exact List.filter_eq_nil_iff.1 hnil leak hleak (by simp [hheading])
  heading_eq := by
    intro g hg leak hleak
    obtain ⟨name, -, rfl⟩ := List.mem_map.1 hg
    simpa using (List.mem_filter.1 hleak).2
  sublist := by
    intro g hg
    obtain ⟨name, -, rfl⟩ := List.mem_map.1 hg
    exact List.filter_sublist
  perm := by
    rw [List.flatMap_map]
    exact flatMap_filter_perm (hascending.imp ne_of_lt) fun leak hleak =>
      (hmem _).2 (List.mem_map_of_mem hleak)

/-- The groups by procedure are the groups of the leaks. -/
theorem grouped_byProcedure (leaks : List Leak) : Grouped leaks (byProcedure leaks) :=
  grouped_of_names (Text.pairwise_sortedDistinct _) fun _ => Text.mem_sortedDistinct

/-! ## Gathering leaks one by one -/

/-- Leaks under names, with one more leak under its name. -/
def gatherOne (table : String → List Leak) (leak : Leak) : String → List Leak :=
  Function.update table leak.proc.text (table leak.proc.text ++ [leak])

/-- The leaks under their names, gathered from the first to the last. -/
def gather (leaks : List Leak) : String → List Leak := leaks.foldl gatherOne fun _ => []

theorem foldl_gatherOne (table : String → List Leak) (leaks : List Leak) (name : String) :
    leaks.foldl gatherOne table name = table name ++ leaks.filter (·.proc.text == name) := by
  induction leaks generalizing table with
  | nil => simp
  | cons leak rest ih =>
    rw [List.foldl_cons, ih, gatherOne, List.filter_cons]
    by_cases heq : leak.proc.text = name
    · subst heq
      simp
    · simp [heq, Function.update_of_ne (Ne.symm heq)]

theorem gather_eq (leaks : List Leak) (name : String) :
    gather leaks name = leaks.filter (·.proc.text == name) :=
  foldl_gatherOne _ leaks name

/-- In whatever order the names of the gathered leaks are taken, once they are sorted they lead to
the groups by procedure. -/
theorem byProcedure_eq_gathered {leaks : List Leak} {names : List String} (hdistinct : names.Nodup)
    (hmem : ∀ name, name ∈ names ↔ gather leaks name ≠ []) :
    (names.mergeSort Text.le).map (fun name => (name, gather leaks name)) = byProcedure leaks := by
  have hoccurs : ∀ name, name ∈ names.mergeSort Text.le ↔ name ∈ leaks.map (·.proc.text) := by
    intro name
    rw [List.mem_mergeSort, hmem, gather_eq, Ne, List.filter_eq_nil_iff, List.mem_map]
    simp
  have hascending : (names.mergeSort Text.le).Pairwise (· < ·) :=
    Text.pairwise_lt_of_nodup (Text.pairwise_mergeSort_le names)
      ((List.mergeSort_perm names _).nodup_iff.2 hdistinct)
  simp only [gather_eq]
  exact (grouped_of_names hascending hoccurs).unique (grouped_byProcedure leaks)

end Leak

namespace Command

/-- A leak is printed on two lines: the site with its place, and the origin with its place, where a
place is left out if there is no position. -/
theorem leakLines_eq (p : Ssa.Program) (leak : Leak) :
    leakLines p leak =
      "  " ++ leak.site.text ++
        (if leak.site.pos = 0 then "" else " (" ++ p.placeText leak.site.pos ++ ")") ++
        "\n    secret from " ++ leak.origin.text ++
        (if leak.origin.pos = 0 then "" else " (" ++ p.placeText leak.origin.pos ++ ")") ++
        "\n" := by
  have hsuffix : ∀ pos : Pos, placeSuffix p pos =
      if pos = 0 then "" else " (" ++ p.placeText pos ++ ")" := by
    intro pos
    by_cases hpos : pos = 0
    · simp [placeSuffix, Pos.isValid, hpos]
    · simp [placeSuffix, Pos.isValid, hpos]
  rw [leakLines, hsuffix, hsuffix]

/-- **The report neither loses nor repeats a leak.** It is made of groups and a summary. The groups
are those of the leaks, and there are no others; they are the same in whatever order the names of
the procedures are taken before they are sorted. Under its name a group has two lines for each of
its leaks, which say where the secret escapes and where it comes from. The summary counts the leaks
and the procedures that they are found in, by name. -/
theorem reportText_lists_every_leak (p : Ssa.Program) (r : Batch.Result) :
    ∃ groups : List (String × List Leak), ∃ summary : String,
      reportText p r =
        String.join (groups.map fun g => g.1 ++ "\n" ++ String.join (g.2.map fun leak =>
          "  " ++ leak.site.text ++
            (if leak.site.pos = 0 then "" else " (" ++ p.placeText leak.site.pos ++ ")") ++
            "\n    secret from " ++ leak.origin.text ++
            (if leak.origin.pos = 0 then "" else " (" ++ p.placeText leak.origin.pos ++ ")") ++
            "\n")) ++
          summary ++ " (" ++ toString r.analyzed ++ " functions analyzed, " ++
          toString r.excluded ++ " excluded)\n" ∧
      Leak.Grouped r.leaks groups ∧
      (∀ others, Leak.Grouped r.leaks others → others = groups) ∧
      (∀ names : List String, names.Nodup → (∀ name, name ∈ names ↔ Leak.gather r.leaks name ≠ []) →
        (names.mergeSort Text.le).map (fun name => (name, Leak.gather r.leaks name)) = groups) ∧
      (r.leaks ≠ [] → summary = toString r.leaks.length ++ " leaks in " ++
        toString (r.leaks.map (·.proc.text)).toFinset.card ++ " functions") ∧
      (r.leaks = [] → summary = "no leaks found") := by
  have hgrouped := Leak.grouped_byProcedure r.leaks
  refine ⟨Leak.byProcedure r.leaks, leakCount r.leaks, ?_, hgrouped, ?_, ?_, ?_, ?_⟩
  · simp only [← leakLines_eq]
    rfl
  · intro others hothers
    exact hothers.unique hgrouped
  · intro names hdistinct hmem
    exact Leak.byProcedure_eq_gathered hdistinct hmem
  · intro hleaks
    rw [leakCount, if_neg (by simpa using hleaks), hgrouped.length_eq]
  · intro hnil
    rw [leakCount, hnil]
    rfl

namespace Sample

/-- A leak of a procedure, with a secret from the line 3. -/
def leakOf (proc : Procedure) (site : Vertex) : Leak :=
  ⟨proc, some ⟨0, "t0 = getSecret()", 3⟩, site⟩

/-- Leaks of two procedures in turn; the last one has no place. -/
def interleaved : List Leak :=
  [leakOf ⟨1, "p.G", 2⟩ (some ⟨1, "log(t0)", 5⟩), leakOf ⟨0, "p.F", 1⟩ (some ⟨1, "return t0", 7⟩),
    leakOf ⟨1, "p.G", 2⟩ (some ⟨2, "return t0", 0⟩)]

/-- The places of their statements. -/
def located : Ssa.Program :=
  { places := [(3, "p.go:1:3"), (5, "p.go:2:1"), (7, "p.go:9:2")] }

theorem interleaved_grouped : Leak.Grouped interleaved
    [("p.F", [leakOf ⟨0, "p.F", 1⟩ (some ⟨1, "return t0", 7⟩)]),
      ("p.G", [leakOf ⟨1, "p.G", 2⟩ (some ⟨1, "log(t0)", 5⟩),
        leakOf ⟨1, "p.G", 2⟩ (some ⟨2, "return t0", 0⟩)])] where
  ascending := by decide +kernel
  nonempty := by decide
  heading_eq := by decide
  sublist := by decide
  perm := by decide

/-- The leaks of one procedure stand together under its name, in their order. -/
theorem interleaved_listed : reportText located ⟨interleaved, 4, 1, []⟩ =
    "p.F\n  return t0 (p.go:9:2)\n    secret from t0 = getSecret() (p.go:1:3)\n" ++
    "p.G\n  log(t0) (p.go:2:1)\n    secret from t0 = getSecret() (p.go:1:3)\n" ++
    "  return t0\n    secret from t0 = getSecret() (p.go:1:3)\n" ++
    "3 leaks in 2 functions (4 functions analyzed, 1 excluded)\n" := by
  obtain ⟨groups, summary, htext, -, hunique, -, hcounts, -⟩ :=
    reportText_lists_every_leak located ⟨interleaved, 4, 1, []⟩
  have hnames : (interleaved.map (·.proc.text)).toFinset.card = 2 := by decide
  rw [htext, ← hunique _ interleaved_grouped, hcounts (List.cons_ne_nil _ _), hnames]
  decide +kernel

end Sample

end Command

end LeakCheck
