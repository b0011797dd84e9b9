import LeakCheck.Text.Quoted
import Mathlib.Algebra.Group.Nat.Defs

/-!
# Hexadecimal digits

A number is written with lower-case digits, and `hexNat?` reads it back whatever number of zeros the
digits are padded with (`hexNat?_hexPadded`). So two numbers that are written alike are equal
(`hexPadded_inj`), and a number that has no more digits than the width is written with as many
digits as the width says (`length_hexPadded`).
-/

namespace LeakCheck.Text

/-- A decimal digit or one of the letters from `a` to `f`. -/
def IsHexDigit (c : Char) : Prop := ('0' ≤ c ∧ c ≤ '9') ∨ ('a' ≤ c ∧ c ≤ 'f')

/-! ## One digit -/

theorem isHexDigit_digitChar : ∀ d < 16, IsHexDigit d.digitChar := by
  unfold IsHexDigit
  decide

theorem hexValue?_digitChar : ∀ d < 16, hexValue? d.digitChar = some d := by decide

/-! ## All digits -/

theorem isHexDigit_of_mem_hexDigits {n : Nat} : ∀ {c}, c ∈ hexDigits n → IsHexDigit c := by
  unfold hexDigits
  -- along the digits of `n`, from the first one
  induction n using Nat.base_induction 16 (by decide) with
  | single d hd =>
    intro c hc
    rw [Nat.toDigits_of_lt_base hd, List.mem_singleton] at hc
    rw [hc]
    exact isHexDigit_digitChar d hd
  | digit m d hd hm ih =>
    intro c hc
    rw [← Nat.toDigits_append_toDigits (by decide) hm hd, Nat.toDigits_of_lt_base hd,
      List.mem_append, List.mem_singleton] at hc
    rcases hc with hc | rfl
    · exact ih hc
    · exact isHexDigit_digitChar d hd

theorem isHexDigit_of_mem_hexPadded {width n : Nat} {c : Char} (h : c ∈ hexPadded width n) :
    IsHexDigit c := by
  rcases List.mem_append.1 h with hzero | hdigit
  · rw [(List.mem_replicate.1 hzero).2]
    exact isHexDigit_digitChar 0 (by decide)
  · exact isHexDigit_of_mem_hexDigits hdigit

theorem length_hexPadded {width n : Nat} (hwidth : 0 < width) (hn : n < 16 ^ width) :
    (hexPadded width n).length = width := by
  have hle : (hexDigits n).length ≤ width :=
    (Nat.length_toDigits_le_iff (by decide) hwidth).2 hn
  rw [hexPadded, List.length_append, List.length_replicate]
  omega

/-! ## Reading back -/

/-- Digits that follow others are read after them. -/
theorem hexNat?_append (digits more : List Char) :
    hexNat? (digits ++ more) = (hexNat? digits).bind fun n =>
      more.foldlM (fun n c => (hexValue? c).map (16 * n + ·)) n :=
  List.foldlM_append

theorem hexNat?_hexDigits (n : Nat) : hexNat? (hexDigits n) = some n := by
  unfold hexDigits
  induction n using Nat.base_induction 16 (by decide) with
  | single d hd =>
    rw [Nat.toDigits_of_lt_base hd]
    simp [hexNat?, hexValue?_digitChar d hd]
  | digit m d hd hm ih =>
    rw [← Nat.toDigits_append_toDigits (by decide) hm hd, Nat.toDigits_of_lt_base hd,
      hexNat?_append, ih]
    simp [hexValue?_digitChar d hd]

theorem hexNat?_replicate_zero (k : Nat) : hexNat? (List.replicate k '0') = some 0 := by
  induction k with
  | zero => rfl
  | succ k ih =>
    rw [List.replicate_succ', hexNat?_append, ih]
    rfl

/-- **A padded number reads back as the number.** -/
theorem hexNat?_hexPadded (width n : Nat) : hexNat? (hexPadded width n) = some n := by
  rw [hexPadded, hexNat?_append, hexNat?_replicate_zero]
  exact hexNat?_hexDigits n

theorem hexPadded_inj {width m n : Nat} (h : hexPadded width m = hexPadded width n) : m = n := by
  have hread := congrArg hexNat? h
  rw [hexNat?_hexPadded, hexNat?_hexPadded] at hread
  exact Option.some.inj hread

end LeakCheck.Text
