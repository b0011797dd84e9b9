import LeakCheck.Text.Blank
import Mathlib.Data.List.DropRight

/-!
# Trimmed texts

A text is what trimming takes off its two ends and what remains between them
(`exists_eq_trimBoth`). What begins and ends with items that are not taken off remains, whatever
stands before it and after it (`trimBoth_append`). What remains neither begins nor ends with an item
that is taken off (`head?_trimBoth`, `getLast?_trimBoth`).
-/

namespace LeakCheck.Text

variable {p : Char → Bool}

/-- A text is the trimmed text between items, of which the first ones are taken off. -/
theorem exists_eq_trimBoth (p : Char → Bool) (cs : List Char) :
    ∃ front back, (∀ c ∈ front, p c = true) ∧ cs = front ++ trimBoth p cs ++ back := by
  obtain ⟨back, hback⟩ : trimBoth p cs <+: trimStart p cs := List.rdropWhile_prefix p _
  refine ⟨cs.takeWhile p, back, fun c hc => List.mem_takeWhile_imp hc, ?_⟩
  rw [List.append_assoc, hback]
  exact List.takeWhile_append_dropWhile.symm

theorem mem_of_mem_trimBoth {cs : List Char} {c : Char} (h : c ∈ trimBoth p cs) : c ∈ cs := by
  obtain ⟨front, back, -, hcs⟩ := exists_eq_trimBoth p cs
  rw [hcs]
  simp [h]

/-- What remains does not begin with an item that is taken off. -/
theorem head?_trimBoth {cs : List Char} {c : Char} (h : (trimBoth p cs).head? = some c) :
    p c = false := by
  obtain ⟨back, hback⟩ : trimBoth p cs <+: trimStart p cs := List.rdropWhile_prefix p _
  have hhead : (trimStart p cs).head? = some c := by
    rw [← hback, List.head?_append, h]
    rfl
  have hnot := List.head?_dropWhile_not p cs
  rw [← trimStart, hhead] at hnot
  simpa using hnot

/-- What remains does not end with an item that is taken off. -/
theorem getLast?_trimBoth {cs : List Char} {c : Char} (h : (trimBoth p cs).getLast? = some c) :
    p c = false := by
  have hnot := List.head?_dropWhile_not p (trimStart p cs).reverse
  rw [trimBoth, trimEnd, List.getLast?_reverse] at h
  rw [h] at hnot
  simpa using hnot

/-- Nothing is taken off before an item at the end that stays. -/
theorem trimEnd_append {c : Char} (hc : p c = false) (cs back : List Char) :
    trimEnd p (cs ++ [c] ++ back) = cs ++ [c] ++ trimEnd p back := by
  have hlast : (c :: cs.reverse).dropWhile p = c :: cs.reverse :=
    List.dropWhile_cons_of_neg (Bool.not_eq_true _ ▸ hc)
  rw [trimEnd, List.reverse_append, List.dropWhile_append, List.reverse_append,
    List.reverse_singleton, List.singleton_append, hlast, trimEnd]
  split
  · next hback => simp [List.isEmpty_iff.1 hback]
  · simp

/-- What begins and ends with items that stay is all that remains up to its end. -/
theorem trimBoth_append {front cs : List Char} {c d : Char} (hfront : ∀ c ∈ front, p c = true)
    (hhead : cs.head? = some c) (hc : p c = false) (hlast : cs.getLast? = some d)
    (hd : p d = false) (back : List Char) :
    trimBoth p (front ++ cs ++ back) = cs ++ trimEnd p back := by
  have hstart : trimStart p (front ++ cs ++ back) = cs ++ back := by
    obtain ⟨rest, rfl⟩ := List.head?_eq_some_iff.1 hhead
    rw [trimStart, List.append_assoc, List.dropWhile_append_of_pos hfront, List.cons_append,
      List.dropWhile_cons_of_neg (Bool.not_eq_true _ ▸ hc)]
  obtain ⟨rest, rfl⟩ := List.getLast?_eq_some_iff.1 hlast
  rw [trimBoth, hstart, trimEnd_append hd]

end LeakCheck.Text
