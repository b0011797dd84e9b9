import LeakCheck.Dump.FileName
import LeakCheck.Proofs.Text.Hexadecimal
import LeakCheck.Proofs.Text.Trim
import Mathlib.Logic.ExistsUnique

/-!
# File names keep names apart and are safe

A step of the hash can be undone: the multiplier is odd, so it has an inverse modulo `2 ^ 32`, and
exclusive or is its own inverse. Hence a step is injective in the hash before it and in the byte it
takes, and two names that differ in one byte go apart at that byte and never meet again
(`hash_ne_of_byte_ne`). The hash can be read off the end of a file name (`hash_eq_of_fileName_eq`),
so their file names differ as well (`one_byte_separates`).

Whatever a function is called, its file name consists of characters that are safe in names of files
and begins and ends with such that are safe there (`named_fileNameOfBytes`).
-/

namespace LeakCheck.Dump

/-! ## Steps of the hash -/

/-- The number that undoes the multiplication with the multiplier, modulo `2 ^ 32`. -/
def hashInverse : UInt32 := 899433627

theorem mul_hashPrime_inj {h k : UInt32} (heq : h * hashPrime = k * hashPrime) : h = k := by
  have hinverse : hashPrime * hashInverse = 1 := by decide
  have hundone := congrArg (· * hashInverse) heq
  simpa only [UInt32.mul_assoc, hinverse, UInt32.mul_one] using hundone

theorem hashStep_inj {h k : UInt32} {b : UInt8} (heq : hashStep h b = hashStep k b) : h = k :=
  (UInt32.xor_left_inj _).1 (mul_hashPrime_inj heq)

theorem hashStep_byte_inj {h : UInt32} {a b : UInt8} (heq : hashStep h a = hashStep h b) :
    a = b :=
  UInt8.toUInt32_inj.1 ((UInt32.xor_right_inj h).1 (mul_hashPrime_inj heq))

/-- Hashes that differ stay apart whatever bytes follow. -/
theorem foldl_hashStep_inj {h k : UInt32} (bytes : List UInt8)
    (heq : bytes.foldl hashStep h = bytes.foldl hashStep k) : h = k := by
  induction bytes generalizing h k with
  | nil => exact heq
  | cons b rest ih => exact hashStep_inj (ih heq)

/-- Another byte in one place makes another hash. -/
theorem hash_ne_of_byte_ne {a b : UInt8} (hne : a ≠ b) (front back : List UInt8) :
    hash (front ++ a :: back) ≠ hash (front ++ b :: back) := by
  intro heq
  rw [hash, hash, List.foldl_append, List.foldl_append, List.foldl_cons, List.foldl_cons] at heq
  exact hne (hashStep_byte_inj (foldl_hashStep_inj back heq))

theorem toNat_hashStep (h : UInt32) (b : UInt8) :
    (hashStep h b).toNat = (h.toNat ^^^ b.toNat) * 16777619 % 2 ^ 32 := by
  rw [hashStep, UInt32.toNat_mul, UInt32.toNat_xor, UInt8.toNat_toUInt32]
  rfl

/-- The hash in numbers: each byte is taken in by exclusive or, and the product with the multiplier
is taken modulo `2 ^ 32`. -/
theorem toNat_hash (bytes : List UInt8) :
    (hash bytes).toNat =
      bytes.foldl (fun n b => (n ^^^ b.toNat) * 16777619 % 2 ^ 32) 2166136261 := by
  have hfold : ∀ h : UInt32, (bytes.foldl hashStep h).toNat =
      bytes.foldl (fun n b => (n ^^^ b.toNat) * 16777619 % 2 ^ 32) h.toNat := by
    induction bytes with
    | nil =>
      intro h
      rfl
    | cons b rest ih =>
      intro h
      rw [List.foldl_cons, List.foldl_cons, ih, toNat_hashStep]
  have hoffset : hashOffset.toNat = 2166136261 := by decide
  rw [hash, hfold, hoffset]

/-! ## The hash in the file name -/

theorem length_hashDigits (bytes : List UInt8) :
    (Text.hexPadded 8 (hash bytes).toNat).length = 8 :=
  Text.length_hexPadded (by decide) (hash bytes).toNat_lt

/-- Names with one file name have one hash. -/
theorem hash_eq_of_fileName_eq {xs ys : List UInt8}
    (heq : fileNameOfBytes xs = fileNameOfBytes ys) : hash xs = hash ys := by
  rw [fileNameOfBytes, fileNameOfBytes, String.ofList_inj] at heq
  have hlength := (length_hashDigits xs).trans (length_hashDigits ys).symm
  exact UInt32.toNat_inj.1 (Text.hexPadded_inj (List.append_inj_right' heq hlength))

/-! ## Names that differ in one byte -/

/-- Two lists of one length that differ in one place are equal up to it and after it. -/
theorem exists_split_of_one_difference {xs ys : List UInt8} (hlength : xs.length = ys.length)
    (hone : ∃! i : Nat, xs[i]? ≠ ys[i]?) :
    ∃ front back a b, a ≠ b ∧ xs = front ++ a :: back ∧ ys = front ++ b :: back := by
  obtain ⟨i, hdiffers, honly⟩ := hone
  have hsame : ∀ j, j ≠ i → xs[j]? = ys[j]? := fun j hj => not_not.1 (mt (honly j) hj)
  have hx : i < xs.length := by
    by_contra hge
    refine hdiffers ?_
    rw [List.getElem?_eq_none (by omega), List.getElem?_eq_none (by omega)]
  have hy : i < ys.length := hlength ▸ hx
  have hfront : xs.take i = ys.take i := by
    refine List.ext_getElem? fun j => ?_
    rw [List.getElem?_take, List.getElem?_take]
    split
    · exact hsame j (by omega)
    · rfl
  have hback : xs.drop (i + 1) = ys.drop (i + 1) := by
    refine List.ext_getElem? fun j => ?_
    rw [List.getElem?_drop, List.getElem?_drop]
    exact hsame _ (by omega)
  refine ⟨xs.take i, xs.drop (i + 1), xs[i], ys[i], ?_, ?_, ?_⟩
  · intro heq
    refine hdiffers ?_
    rw [List.getElem?_eq_getElem hx, List.getElem?_eq_getElem hy, heq]
  · rw [← List.drop_eq_getElem_cons hx, List.take_append_drop]
  · rw [hfront, hback, ← List.drop_eq_getElem_cons hy, List.take_append_drop]

/-- **Names that differ in one byte are kept apart.** Their hashes differ, and so do their file
names. The hash takes in the bytes one after the other: exclusive or with the byte, then the product
with the multiplier modulo `2 ^ 32`. -/
theorem one_byte_separates {xs ys : List UInt8} (hlength : xs.length = ys.length)
    (hone : ∃! i : Nat, xs[i]? ≠ ys[i]?) :
    (∀ bytes, (hash bytes).toNat =
      bytes.foldl (fun n b => (n ^^^ b.toNat) * 16777619 % 2 ^ 32) 2166136261) ∧
    hash xs ≠ hash ys ∧ fileNameOfBytes xs ≠ fileNameOfBytes ys ∧
    ∀ s t, Text.bytes s = xs → Text.bytes t = ys → fileName s ≠ fileName t := by
  have hhash : hash xs ≠ hash ys := by
    obtain ⟨front, back, a, b, hne, rfl, rfl⟩ := exists_split_of_one_difference hlength hone
    exact hash_ne_of_byte_ne hne front back
  have hname : fileNameOfBytes xs ≠ fileNameOfBytes ys := mt hash_eq_of_fileName_eq hhash
  refine ⟨toNat_hash, hhash, hname, ?_⟩
  rintro s t rfl rfl
  exact hname

namespace Sample

/-- The name of a closure. -/
def closure : List UInt8 := [0x46, 0x24, 0x31]

/-- The name of a function that reads like that of the closure in a file name. -/
def lookalike : List UInt8 := [0x46, 0x5f, 0x31]

/-- The closure `F$1` and the function `F_1` have one readable part and two file names. -/
theorem closure_separated :
    readable closure = readable lookalike ∧ fileNameOfBytes closure ≠ fileNameOfBytes lookalike := by
  have hone : ∃! i : Nat, closure[i]? ≠ lookalike[i]? := by
    refine ⟨1, by decide, ?_⟩
    intro i hi
    match i with
    | 0 => exact absurd rfl hi
    | 1 => rfl
    | 2 => exact absurd rfl hi
    | i + 3 => exact absurd rfl hi
  exact ⟨by decide +kernel, (one_byte_separates (by decide) hone).2.2.1⟩

end Sample

/-! ## Safe names -/

/-- The characters that are safe in names of files everywhere: letters and digits of ASCII, the dot,
the dash and the underscore. -/
def IsPortable (c : Char) : Prop :=
  ('a' ≤ c ∧ c ≤ 'z') ∨ ('A' ≤ c ∧ c ≤ 'Z') ∨ ('0' ≤ c ∧ c ≤ '9') ∨ c = '.' ∨ c = '-' ∨ c = '_'

/-- A file name of a readable part and the digits of a hash. -/
structure Named (name base digits : String) : Prop where
  /-- A dash stands between the two. -/
  parts : name = base ++ "-" ++ digits
  /-- There are eight digits. -/
  length_digits : digits.length = 8
  /-- They are hexadecimal and in lower case. -/
  digits_hex : ∀ c ∈ digits.toList, Text.IsHexDigit c
  /-- All characters of the readable part are safe. -/
  base_portable : ∀ c ∈ base.toList, IsPortable c
  /-- The readable part does not begin with an underscore or a dot. -/
  base_head : ∀ c, base.toList.head? = some c → c ≠ '_' ∧ c ≠ '.'
  /-- It does not end with one either. -/
  base_last : ∀ c, base.toList.getLast? = some c → c ≠ '_' ∧ c ≠ '.'

theorem isPortable_plainChar (c : Option Char) : IsPortable (plainChar c) := by
  have hunderscore : IsPortable '_' := .inr (.inr (.inr (.inr (.inr rfl))))
  cases c with
  | none => exact hunderscore
  | some c =>
    rw [plainChar]
    split
    · next hplain =>
      simp only [isPlain, Bool.or_eq_true, Bool.and_eq_true, decide_eq_true_eq, beq_iff_eq]
        at hplain
      rcases hplain with (((hlower | hupper) | hdigit) | hdot) | hdash
      · exact .inl hlower
      · exact .inr (.inl hupper)
      · exact .inr (.inr (.inl hdigit))
      · exact .inr (.inr (.inr (.inl hdot)))
      · exact .inr (.inr (.inr (.inr (.inl hdash))))
    · exact hunderscore

theorem isPortable_of_isHexDigit {c : Char} (h : Text.IsHexDigit c) : IsPortable c := by
  rcases h with hdigit | ⟨ha, hf⟩
  · exact .inr (.inr (.inl hdigit))
  · exact .inl ⟨ha, Char.le_trans hf (by decide)⟩

theorem IsPortable.ne_slash {c : Char} (h : IsPortable c) : c ≠ '/' := by
  rintro rfl
  revert h
  simp [IsPortable]

/-- **A file name has its form whatever the bytes of the name are**, also if they encode no text. -/
theorem named_fileNameOfBytes (bytes : List UInt8) :
    ∃ base digits, Named (fileNameOfBytes bytes) base digits := by
  refine ⟨String.ofList (readable bytes), String.ofList (Text.hexPadded 8 (hash bytes).toNat), ?_⟩
  have hends : ∀ c : Char, (c == '_' || c == '.') = false → c ≠ '_' ∧ c ≠ '.' := by simp
  refine ⟨?_, ?_, ?_, ?_, ?_, ?_⟩
  · rw [fileNameOfBytes, String.ofList_append, String.ofList_append]
  · rw [String.length_ofList, length_hashDigits]
  · intro c hc
    rw [String.toList_ofList] at hc
    exact Text.isHexDigit_of_mem_hexPadded hc
  · intro c hc
    rw [String.toList_ofList] at hc
    obtain ⟨d, -, rfl⟩ := List.mem_map.1 (Text.mem_of_mem_trimBoth hc)
    exact isPortable_plainChar d
  · intro c hc
    rw [String.toList_ofList] at hc
    exact hends c (Text.head?_trimBoth hc)
  · intro c hc
    rw [String.toList_ofList] at hc
    exact hends c (Text.getLast?_trimBoth hc)

section
variable {name base digits : String}

theorem Named.toList_eq (h : Named name base digits) :
    name.toList = base.toList ++ '-' :: digits.toList := by
  simp [h.parts]

theorem Named.portable (h : Named name base digits) {c : Char} (hc : c ∈ name.toList) :
    IsPortable c := by
  rw [h.toList_eq, List.mem_append, List.mem_cons] at hc
  rcases hc with hbase | rfl | hdigit
  · exact h.base_portable c hbase
  · exact .inr (.inr (.inr (.inr (.inl rfl))))
  · exact isPortable_of_isHexDigit (h.digits_hex c hdigit)

/-- A file name begins like its readable part, or with the dash if that is empty. -/
theorem Named.head?_ne_dot (h : Named name base digits) : name.toList.head? ≠ some '.' := by
  rw [h.toList_eq, List.head?_append]
  cases hhead : base.toList.head? with
  | none => simp
  | some c => simpa using (h.base_head c hhead).2

end

end LeakCheck.Dump
