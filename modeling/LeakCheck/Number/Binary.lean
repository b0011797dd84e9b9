/-!
# Binary floating point

A format has a number of binary digits and a least and a greatest exponent. `Format.round` takes a
fraction to the nearest number of the format, of two equally near ones to the even one.
-/

namespace LeakCheck.Number

/-- A binary format of numbers. -/
structure Format where
  /-- The number of binary digits. -/
  precision : Nat
  /-- The exponent of the last digit of the smallest numbers. -/
  least : Int
  /-- The exponent from which on numbers are too large. -/
  limit : Int
  deriving Repr, Inhabited

/-- The format of 64 bits. -/
def double : Format := ⟨53, -1074, 1024⟩

/-- The format of 32 bits. -/
def single : Format := ⟨24, -149, 128⟩

/-- A binary number. -/
inductive Binary where
  /-- The number `mantissa · 2 ^ exponent` with a sign. -/
  | finite (negative : Bool) (mantissa : Nat) (exponent : Int)
  /-- An infinity. -/
  | infinite (negative : Bool)
  /-- What is no number. -/
  | undefined
  deriving DecidableEq, Repr, Inhabited

/-- A fraction rounded to the nearest natural number, a half to the even one. -/
def roundQuotient (num den : Nat) : Nat :=
  let q := num / den
  let r := num % den
  if 2 * r < den then q else if den < 2 * r then q + 1 else q + q % 2

/-- The product of a fraction with a power of two. -/
def scale (num den : Nat) (e : Int) : Nat × Nat :=
  if 0 ≤ e then (num * Nat.pow 2 e.toNat, den) else (num, den * Nat.pow 2 (-e).toNat)

/-- The exponent of the greatest power of two that a positive fraction reaches. -/
def magnitude (num den : Nat) : Int :=
  let k : Int := num.log2 - den.log2
  let (n, d) := scale num den (-k)
  if d ≤ n then k else k - 1

/-- The number of a format that is nearest to a fraction. -/
def Format.round (f : Format) (negative : Bool) (num den : Nat) : Binary :=
  if num = 0 then .finite negative 0 f.least
  else
    let e := max (magnitude num den - (f.precision - 1)) f.least
    let (n, d) := scale num den (-e)
    let m := roundQuotient n d
    let (m, e) := if m = Nat.pow 2 f.precision then (Nat.pow 2 (f.precision - 1), e + 1) else (m, e)
    if f.limit < e + f.precision then .infinite negative else .finite negative m e

/-- The nearest number of a format. -/
def Format.convert (f : Format) : Binary → Binary
  | .finite negative m e =>
    let (n, d) := scale m 1 e
    f.round negative n d
  | other => other

/-- The number of a format that is nearest to a decimal number: digits and a power of ten. Numbers
far beyond the format are not computed. -/
def Format.ofDecimal (f : Format) (negative : Bool) (digits : Nat) (exponent : Int) : Binary :=
  if digits = 0 then .finite negative 0 f.least
  else
    let top := (Nat.toDigits 10 digits).length + exponent
    if 400 < top then .infinite negative
    else if top < -400 then .finite negative 0 f.least
    else if 0 ≤ exponent then f.round negative (digits * Nat.pow 10 exponent.toNat) 1
    else f.round negative digits (Nat.pow 10 (-exponent).toNat)

/-- Whether two numbers are equal; zero has two signs, and what is no number equals nothing. -/
def Binary.equal : Binary → Binary → Bool
  | .finite s m e, .finite t n k => (m == 0 && n == 0) || (s == t && m == n && e == k)
  | .infinite s, .infinite t => s == t
  | _, _ => false

end LeakCheck.Number
