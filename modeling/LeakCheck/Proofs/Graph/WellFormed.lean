import LeakCheck.Graph.Basic
import Mathlib.Data.List.Duplicate

/-!
# Well-formed graphs

`Graph.WellFormed` says what the checks of `Graph.defect?` look for as one statement about the
lists of a graph, and `WellFormed.of_defect?` reads it off a graph in which no defect was found.
Everything proved about a search or a solver uses the fields of this structure and never the
checks themselves.

A defect that is found is there (`present_of_defect?`), and a well-formed graph has none of them
(`WellFormed.not_present`), so exactly the well-formed graphs are accepted
(`accepted_iff_wellFormed`).
-/

namespace LeakCheck.Graph

/-- A graph that lists its vertices once each, its entry among them, and whose successor and
predecessor lists stay inside and describe the same edges. -/
structure WellFormed (g : Graph) : Prop where
  /-- Some vertex is listed. -/
  nodes_ne_nil : g.nodes ≠ []
  /-- No vertex is listed twice. -/
  nodup : g.nodes.Nodup
  /-- The entry is not the absent node. -/
  entry_ne_none : g.entry ≠ none
  /-- The entry is listed. -/
  entry_mem : g.entry ∈ g.nodes
  /-- Successors of listed vertices are listed. -/
  succs_mem : ∀ n ∈ g.nodes, ∀ s ∈ g.succs n, s ∈ g.nodes
  /-- Predecessors of listed vertices are listed. -/
  preds_mem : ∀ n ∈ g.nodes, ∀ p ∈ g.preds n, p ∈ g.nodes
  /-- The two lists of edges agree. -/
  mem_succs_iff : ∀ n ∈ g.nodes, ∀ m ∈ g.nodes, m ∈ g.succs n ↔ n ∈ g.preds m

/-- A list in which no vertex is found repeated, also counting those seen before, has none. -/
theorem nodup_of_firstRepeated? {seen nodes : List Vertex}
    (h : firstRepeated? seen nodes = none) : nodes.Nodup ∧ ∀ n ∈ nodes, n ∉ seen := by
  induction nodes generalizing seen with
  | nil => exact ⟨List.nodup_nil, fun n hn => absurd hn (by simp)⟩
  | cons m rest ih =>
    rw [firstRepeated?] at h
    split at h
    · cases h
    · next hm =>
      obtain ⟨hnd, hout⟩ := ih h
      refine ⟨List.nodup_cons.2 ⟨fun hmem => hout m hmem (by simp), hnd⟩, ?_⟩
      intro n hn
      rcases List.mem_cons.1 hn with rfl | hn
      · exact hm
      · exact fun hs => hout n hn (List.mem_cons_of_mem m hs)

/-- A successor edge without a defect ends at a listed vertex that lists it back. -/
theorem succDefect?_eq_none {g : Graph} {n s : Vertex} (h : g.succDefect? n s = none) :
    s ∈ g.nodes ∧ n ∈ g.preds s := by
  unfold succDefect? at h
  split at h
  · cases h
  · next hs =>
    split at h
    · cases h
    · next hp => exact ⟨Decidable.not_not.1 hs, Decidable.not_not.1 hp⟩

/-- A predecessor edge without a defect begins at a listed vertex that lists it too. -/
theorem predDefect?_eq_none {g : Graph} {n p : Vertex} (h : g.predDefect? n p = none) :
    p ∈ g.nodes ∧ n ∈ g.succs p := by
  unfold predDefect? at h
  split at h
  · cases h
  · next hp =>
    split at h
    · cases h
    · next hs => exact ⟨Decidable.not_not.1 hp, Decidable.not_not.1 hs⟩

/-- A vertex without an edge defect has none in its successors nor in its predecessors. -/
theorem edgeDefect?_eq_none {g : Graph} {n : Vertex} (h : g.edgeDefect? n = none) :
    (∀ s ∈ g.succs n, s ∈ g.nodes ∧ n ∈ g.preds s) ∧
      ∀ p ∈ g.preds n, p ∈ g.nodes ∧ n ∈ g.succs p := by
  rw [edgeDefect?, Option.or_eq_none_iff, List.findSome?_eq_none_iff,
    List.findSome?_eq_none_iff] at h
  exact ⟨fun s hs => succDefect?_eq_none (h.1 s hs), fun p hp => predDefect?_eq_none (h.2 p hp)⟩

/-- **A graph without a defect is well formed.** -/
theorem WellFormed.of_defect? {g : Graph} (h : g.defect? = none) : g.WellFormed := by
  unfold defect? at h
  split at h
  · cases h
  · next hne =>
    split at h
    · cases h
    · next hrep =>
      split at h
      · cases h
      · next hentry =>
        rw [List.findSome?_eq_none_iff] at h
        have hedges := fun n hn => edgeDefect?_eq_none (h n hn)
        rw [not_or, Decidable.not_not] at hentry
        exact {
          nodes_ne_nil := hne
          nodup := (nodup_of_firstRepeated? hrep).1
          entry_ne_none := hentry.1
          entry_mem := hentry.2
          succs_mem := fun n hn s hs => ((hedges n hn).1 s hs).1
          preds_mem := fun n hn p hp => ((hedges n hn).2 p hp).1
          mem_succs_iff := fun n hn m hm =>
            ⟨fun hs => ((hedges n hn).1 m hs).2, fun hp => ((hedges m hm).2 n hp).2⟩ }

/-! ## Defects -/

/-- What a defect says of a graph. -/
def Defect.Present (g : Graph) : Defect → Prop
  | .empty => g.nodes = []
  | .listedTwice n => List.Duplicate n g.nodes
  | .entryUnlisted entry => entry = g.entry ∧ (entry = none ∨ entry ∉ g.nodes)
  | .succUnlisted s n => n ∈ g.nodes ∧ s ∈ g.succs n ∧ s ∉ g.nodes
  | .succOneWay s n => n ∈ g.nodes ∧ s ∈ g.succs n ∧ s ∈ g.nodes ∧ n ∉ g.preds s
  | .predUnlisted p n => n ∈ g.nodes ∧ p ∈ g.preds n ∧ p ∉ g.nodes
  | .predOneWay p n => n ∈ g.nodes ∧ p ∈ g.preds n ∧ p ∈ g.nodes ∧ n ∉ g.succs p

/-- A vertex that is found repeated was seen before the list or stands in it twice. -/
theorem duplicate_of_firstRepeated? {seen nodes : List Vertex} {n : Vertex}
    (h : firstRepeated? seen nodes = some n) :
    n ∈ seen ∧ n ∈ nodes ∨ List.Duplicate n nodes := by
  induction nodes generalizing seen with
  | nil => cases h
  | cons m rest ih =>
    rw [firstRepeated?] at h
    split at h
    · next hm =>
      cases h
      exact .inl ⟨hm, List.mem_cons_self⟩
    · rcases ih h with ⟨hseen, hrest⟩ | hdup
      · rcases List.mem_cons.1 hseen with rfl | hseen
        · exact .inr (List.Mem.duplicate_cons_self hrest)
        · exact .inl ⟨hseen, List.mem_cons_of_mem m hrest⟩
      · exact .inr (hdup.duplicate_cons m)

section
variable {g : Graph} {n : Vertex} {d : Defect}

theorem present_of_succDefect? {s : Vertex} (hn : n ∈ g.nodes) (hs : s ∈ g.succs n)
    (h : g.succDefect? n s = some d) : d.Present g := by
  unfold succDefect? at h
  split at h
  · next hout =>
    cases h
    exact ⟨hn, hs, hout⟩
  · next hin =>
    split at h
    · next hway =>
      cases h
      exact ⟨hn, hs, Decidable.not_not.1 hin, hway⟩
    · cases h

theorem present_of_predDefect? {p : Vertex} (hn : n ∈ g.nodes) (hp : p ∈ g.preds n)
    (h : g.predDefect? n p = some d) : d.Present g := by
  unfold predDefect? at h
  split at h
  · next hout =>
    cases h
    exact ⟨hn, hp, hout⟩
  · next hin =>
    split at h
    · next hway =>
      cases h
      exact ⟨hn, hp, Decidable.not_not.1 hin, hway⟩
    · cases h

theorem present_of_edgeDefect? (hn : n ∈ g.nodes) (h : g.edgeDefect? n = some d) :
    d.Present g := by
  rw [edgeDefect?, Option.or_eq_some_iff] at h
  rcases h with h | ⟨-, h⟩
  · obtain ⟨s, hs, hd⟩ := List.exists_of_findSome?_eq_some h
    exact present_of_succDefect? hn hs hd
  · obtain ⟨p, hp, hd⟩ := List.exists_of_findSome?_eq_some h
    exact present_of_predDefect? hn hp hd

/-- **A defect that is found is there.** -/
theorem present_of_defect? (h : g.defect? = some d) : d.Present g := by
  unfold defect? at h
  split at h
  · next hempty =>
    cases h
    exact hempty
  · split at h
    · next n hrep =>
      cases h
      rcases duplicate_of_firstRepeated? hrep with ⟨hseen, -⟩ | hdup
      · cases hseen
      · exact hdup
    · split at h
      · next hentry =>
        cases h
        exact ⟨rfl, hentry⟩
      · obtain ⟨n, hn, hd⟩ := List.exists_of_findSome?_eq_some h
        exact present_of_edgeDefect? hn hd

/-- A well-formed graph has no defect of any kind. -/
theorem WellFormed.not_present (hg : g.WellFormed) : ¬ d.Present g := by
  intro h
  cases d with
  | empty => exact hg.nodes_ne_nil h
  | listedTwice n => exact List.Duplicate.not_nodup h hg.nodup
  | entryUnlisted entry =>
    obtain ⟨rfl, habsent | hunlisted⟩ := h
    · exact hg.entry_ne_none habsent
    · exact hunlisted hg.entry_mem
  | succUnlisted s n =>
    obtain ⟨hn, hs, hout⟩ := h
    exact hout (hg.succs_mem n hn s hs)
  | succOneWay s n =>
    obtain ⟨hn, hs, hin, hway⟩ := h
    exact hway ((hg.mem_succs_iff n hn s hin).1 hs)
  | predUnlisted p n =>
    obtain ⟨hn, hp, hout⟩ := h
    exact hout (hg.preds_mem n hn p hp)
  | predOneWay p n =>
    obtain ⟨hn, hp, hin, hway⟩ := h
    exact hway ((hg.mem_succs_iff p hin n hn).2 hp)

theorem WellFormed.defect?_eq_none (hg : g.WellFormed) : g.defect? = none := by
  cases h : g.defect? with
  | none => rfl
  | some d => exact absurd (present_of_defect? h) hg.not_present

end

/-- **Exactly the well-formed graphs are accepted.** The checks stop at the first defect and compare
successors and predecessors from one side at a time, yet they find none only if the graph is well
formed. Any other graph is refused for a defect that it has, in words that say that the graph is
invalid. -/
theorem accepted_iff_wellFormed (g : Graph) :
    (g.defect? = none ↔ g.WellFormed) ∧
      (¬ g.WellFormed → ∃ d, g.defect? = some d ∧ d.Present g ∧
        ∃ detail, d.message = "invalid control-flow graph: " ++ detail) := by
  refine ⟨⟨WellFormed.of_defect?, WellFormed.defect?_eq_none⟩, fun hno => ?_⟩
  cases h : g.defect? with
  | none => exact absurd (WellFormed.of_defect? h) hno
  | some d => exact ⟨d, rfl, present_of_defect? h, _, rfl⟩

end LeakCheck.Graph
