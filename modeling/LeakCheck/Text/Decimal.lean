/-!
# Decimal integers

Reading integers of 64 bits from their decimal digits.
-/

namespace LeakCheck.Text

/-- The value of a decimal digit. -/
def digitValue? (c : Char) : Option Nat :=
  if '0' ≤ c ∧ c ≤ '9' then some (c.toNat - 48) else none

/-- The number written by decimal digits, of which there must be one. -/
def natOfDigits? (digits : List Char) : Option Nat :=
  if digits.isEmpty then none
  else digits.foldlM (fun n c => (digitValue? c).map (10 * n + ·)) 0

/-- Whether an integer has 64 bits. -/
def isInt64 (n : Int) : Bool := -9223372036854775808 ≤ n && n ≤ 9223372036854775807

/-- Reads an integer: a sign if there is one, then decimal digits. -/
def signedOfDigits? : List Char → Option Int
  | '+' :: digits => (natOfDigits? digits).map Int.ofNat
  | '-' :: digits => (natOfDigits? digits).map fun n => -Int.ofNat n
  | digits => (natOfDigits? digits).map Int.ofNat

/-- Reads an integer of 64 bits. -/
def readInt? (s : String) : Option Int := (signedOfDigits? s.toList).filter isInt64

end LeakCheck.Text
