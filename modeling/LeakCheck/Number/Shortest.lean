import LeakCheck.Number.Binary

/-!
# The shortest decimal form

The fewest decimal digits that a binary number can be read back from, and of those with so few
digits the nearest. The text is positional for exponents from -4 to 5 and scientific otherwise.
-/

namespace LeakCheck.Number

/-- A number `0.digits · 10 ^ point`. -/
structure Digits where
  /-- The digits as a number. -/
  digits : Nat
  /-- How many there are. -/
  count : Nat
  /-- Where the point stands: so many digits are before it. -/
  point : Int
  deriving DecidableEq, Repr, Inhabited

/-- The numbers that are rounded to a binary number, in quarters of its last digit. -/
structure Interval where
  /-- The lower end. -/
  low : Nat
  /-- The number. -/
  mid : Nat
  /-- The upper end. -/
  high : Nat
  /-- Whether the ends belong to it. -/
  closed : Bool
  deriving DecidableEq, Repr, Inhabited

/-- The numbers that are rounded to `m · 2 ^ e`. Below a power of two they lie closer. -/
def Format.interval (f : Format) (m : Nat) (e : Int) : Interval :=
  let near := m = Nat.pow 2 (f.precision - 1) ∧ f.least < e
  ⟨4 * m - (if near then 1 else 2), 4 * m, 4 * m + 2, m % 2 == 0⟩

/-- Whether a number is inside of an interval. -/
def Interval.holds (i : Interval) (n : Nat) : Bool :=
  if i.closed then i.low ≤ n && n ≤ i.high else i.low < n && n < i.high

/-- The place of the point of a fraction: the least `p` with the fraction below `10 ^ p`. -/
def pointOf (num den : Nat) : Int :=
  let below (p : Int) : Bool :=
    if 0 ≤ p then num < den * Nat.pow 10 p.toNat else num * Nat.pow 10 (-p).toNat < den
  (((List.range 800).map fun (i : Nat) => (i : Int) - 400).find? below).getD 400

/-- The multiple of `10 ^ (point - count)` that reads back as the number with interval `i`, which is
in units of `2 ^ (e - 2)`: the nearer of the two neighbours of the number. -/
def Interval.digits? (i : Interval) (e point : Int) (count : Nat) : Option Nat :=
  let twos := (2 - e).toNat
  let tens := ((count : Int) - point).toNat
  let unit := Nat.pow 2 (e - 2 + twos).toNat * Nat.pow 10 tens
  let grid := Nat.pow 10 (point - count + tens).toNat * Nat.pow 2 twos
  let i : Interval := ⟨i.low * unit, i.mid * unit, i.high * unit, i.closed⟩
  let n := i.mid / grid
  match i.holds (n * grid), i.holds ((n + 1) * grid) with
  | true, true =>
    let r := i.mid % grid
    some (if 2 * r < grid then n else if grid < 2 * r then n + 1 else n + n % 2)
  | true, false => some n
  | false, true => some (n + 1)
  | false, false => none

/-- The shortest digits of a positive number of a format. -/
def Format.shortest (f : Format) (m : Nat) (e : Int) : Digits :=
  let (num, den) := scale m 1 e
  let point := pointOf num den
  let i := f.interval m e
  let found := (List.range 17).findSome? fun k =>
    (i.digits? e point (k + 1)).map fun n => (n, k + 1)
  match found with
  | some (n, count) =>
    if n = Nat.pow 10 count then ⟨1, 1, point + 1⟩ else ⟨n, count, point⟩
  | none => ⟨0, 1, 1⟩

/-! ## The text -/

/-- The digits as characters. -/
def Digits.chars (d : Digits) : List Char := Nat.toDigits 10 d.digits

/-- The positional form. -/
def Digits.positional (d : Digits) : String :=
  let cs := d.chars
  let whole :=
    if d.point ≤ 0 then ['0']
    else cs.take d.point.toNat ++ List.replicate (d.point.toNat - cs.length) '0'
  let fraction := List.replicate (-d.point).toNat '0' ++ cs.drop d.point.toNat
  String.ofList (whole ++ if cs.length ≤ d.point then [] else '.' :: fraction)

/-- The scientific form. The exponent has a sign and two digits or more. -/
def Digits.scientific (d : Digits) : String :=
  let cs := d.chars
  let exponent := d.point - 1
  let size := toString exponent.natAbs
  let mantissa := cs.take 1 ++ if cs.length ≤ 1 then [] else '.' :: cs.drop 1
  String.ofList mantissa ++ "e" ++ (if exponent < 0 then "-" else "+") ++
    (if size.length < 2 then "0" ++ size else size)

/-- The shortest text of a number of a format. -/
def Format.text (f : Format) : Binary → String
  | .undefined => "NaN"
  | .infinite negative => if negative then "-Inf" else "+Inf"
  | .finite negative m e =>
    let sign := if negative then "-" else ""
    if m = 0 then sign ++ "0"
    else
      let d := f.shortest m e
      if d.point - 1 < -4 ∨ 6 ≤ d.point - 1 then sign ++ d.scientific else sign ++ d.positional

end LeakCheck.Number
