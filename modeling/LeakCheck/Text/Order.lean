/-!
# Order of texts

Texts are ordered by their UTF-8 bytes. For well-formed texts that is the order by code points,
which is the order `<` of `String`. `sortByText` sorts by a text and keeps the order of items whose
texts are equal.
-/

namespace LeakCheck.Text

/-- Whether `s` comes before `t` or is equal to it in the order of bytes. -/
def le (s t : String) : Bool := !decide (t < s)

/-- Sorts by a text; items with equal texts keep their order. -/
def sortByText {α : Type} (text : α → String) (items : List α) : List α :=
  ((items.map fun a => (text a, a)).mergeSort fun a b => le a.1 b.1).map (·.2)

/-- The distinct texts in ascending order. -/
def sortedDistinct (texts : List String) : List String :=
  (texts.mergeSort le).eraseDups

/-- Joins texts with a separator between neighbours. -/
def join (separator : String) : List String → String
  | [] => ""
  | [s] => s
  | s :: rest => s ++ separator ++ join separator rest

theorem join_eq_intercalate (separator : String) : ∀ texts : List String,
    join separator texts = separator.intercalate texts
  | [] => rfl
  | [s] => by rw [join, String.intercalate_singleton]
  | s :: t :: rest => by
    rw [join, join_eq_intercalate separator (t :: rest), String.intercalate_cons_cons]
    · simp

end LeakCheck.Text
