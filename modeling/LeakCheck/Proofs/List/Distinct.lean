import Mathlib.Data.List.Basic
import Mathlib.Data.List.Induction

/-!
# Lists without their repetitions

`List.eraseDups` keeps the first of equal items. What a list gets at its end shows there only if it
is new (`eraseDups_concat`), so what was kept stays where it is, and the items that are kept stand
in the order of their first occurrences (`pairwise_idxOf_eraseDups`).
-/

namespace LeakCheck

variable {α : Type} [BEq α] [LawfulBEq α]

/-- What is left of a list when its repetitions are dropped has none. -/
theorem nodup_eraseDups (items : List α) : items.eraseDups.Nodup := by
  -- not structural: the repetitions of the first item are dropped from the rest before it goes on
  induction hn : items.length using Nat.strongRecOn generalizing items with
  | ind n ih =>
    cases items with
    | nil => exact List.nodup_nil
    | cons item rest =>
      have hlt : (rest.filter fun other => !other == item).length < n := by
        have hle := List.length_filter_le (fun other => !other == item) rest
        rw [List.length_cons] at hn
        omega
      rw [List.eraseDups_cons, List.nodup_cons]
      refine ⟨fun hmem => ?_, ih _ hlt _ rfl⟩
      have hother := (List.mem_filter.1 (List.mem_eraseDups.1 hmem)).2
      simp at hother

omit [LawfulBEq α] in
theorem head?_eraseDups (items : List α) : items.eraseDups.head? = items.head? := by
  cases items with
  | nil => rfl
  | cons item rest => rw [List.eraseDups_cons, List.head?_cons, List.head?_cons]

/-- An item before itself is dropped. -/
theorem eraseDups_cons_of_head? {items : List α} {item : α} (h : items.head? = some item) :
    (item :: items).eraseDups = items.eraseDups := by
  cases items with
  | nil => cases h
  | cons first rest =>
    cases h
    simp [List.eraseDups_cons]

/-- Items that occur before are dropped. -/
theorem eraseDups_append_of_subset {items more : List α} (h : more ⊆ items) :
    (items ++ more).eraseDups = items.eraseDups := by
  have hnil : more.removeAll items = [] := by
    rw [List.removeAll, List.filter_eq_nil_iff]
    intro item hitem
    simpa using h hitem
  rw [List.eraseDups_append, hnil, List.eraseDups_nil, List.append_nil]

/-- Items that do not occur before are kept, each once. -/
theorem eraseDups_append_of_disjoint {items more : List α} (h : ∀ item ∈ more, item ∉ items) :
    (items ++ more).eraseDups = items.eraseDups ++ more.eraseDups := by
  have hall : more.removeAll items = more := by
    rw [List.removeAll, List.filter_eq_self]
    intro item hitem
    simpa using h item hitem
  rw [List.eraseDups_append, hall]

theorem eraseDups_concat [DecidableEq α] (items : List α) (item : α) :
    (items ++ [item]).eraseDups =
      if item ∈ items then items.eraseDups else items.eraseDups ++ [item] := by
  split
  · next hmem => exact eraseDups_append_of_subset (by simpa using hmem)
  · next hmem =>
    rw [eraseDups_append_of_disjoint (by simpa using hmem), List.eraseDups_cons]
    rfl

theorem eraseDups_prefix (items more : List α) :
    items.eraseDups <+: (items ++ more).eraseDups := by
  rw [List.eraseDups_append]
  exact List.prefix_append _ _

/-- To drop repetitions moves nothing. -/
theorem eraseDups_sublist [DecidableEq α] (items : List α) : items.eraseDups.Sublist items := by
  induction items using List.reverseRecOn with
  | nil => exact List.Sublist.refl []
  | append_singleton items item ih =>
    rw [eraseDups_concat]
    split
    · exact ih.trans (List.sublist_append_left items [item])
    · exact ih.append (List.Sublist.refl [item])

/-- The items that are kept stand in the order of their first occurrences. -/
theorem pairwise_idxOf_eraseDups [DecidableEq α] (items : List α) :
    items.eraseDups.Pairwise fun a b => items.idxOf a < items.idxOf b := by
  induction items using List.reverseRecOn with
  | nil => exact .nil
  | append_singleton items item ih =>
    have hsame : ∀ a ∈ items.eraseDups, (items ++ [item]).idxOf a = items.idxOf a := by
      intro a ha
      exact List.idxOf_append_of_mem (List.mem_eraseDups.1 ha)
    have hold : items.eraseDups.Pairwise fun a b =>
        (items ++ [item]).idxOf a < (items ++ [item]).idxOf b := by
      refine ih.imp_of_mem ?_
      intro a b ha hb hab
      rwa [hsame a ha, hsame b hb]
    rw [eraseDups_concat]
    split
    · exact hold
    · next hnew =>
      rw [List.pairwise_append]
      refine ⟨hold, List.pairwise_singleton _ _, ?_⟩
      intro a ha b hb
      rw [List.mem_singleton.1 hb, hsame a ha, List.idxOf_append_of_notMem hnew]
      exact Nat.lt_add_right _ (List.idxOf_lt_length_of_mem (List.mem_eraseDups.1 ha))

end LeakCheck
