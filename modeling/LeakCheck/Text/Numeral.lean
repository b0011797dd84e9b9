import LeakCheck.Text.Category
import LeakCheck.Text.Decimal

/-!
# Numerals

Integers whose base the beginning of the numeral tells: `0x`, `0o` or a leading zero, and `0b`; ten
otherwise. Underscores may stand between digits.
-/

namespace LeakCheck.Text

/-- Why a text is not an integer of 64 bits. -/
inductive NumeralError where
  /-- It is not written like a number. -/
  | malformed
  /-- It has more than 64 bits. -/
  | tooLarge
  deriving DecidableEq, Repr, Inhabited

/-- The wording of the refusal. -/
def NumeralError.message : NumeralError → String
  | .malformed => "invalid syntax"
  | .tooLarge => "value out of range"

/-- The value of a digit of a base up to sixteen. -/
def digitIn? (base : Nat) (c : Char) : Option Nat := (hexValue? c).filter (· < base)

/-- Reads digits of a base after the number `n`. Underscores are passed over. -/
def readDigits (base n : Nat) : List Char → Except NumeralError Nat
  | [] => .ok n
  | c :: rest =>
    if c = '_' then readDigits base n rest
    else
      match digitIn? base c with
      | none => .error .malformed
      | some d => if base * n + d < Nat.pow 2 64 then readDigits base (base * n + d) rest
        else .error .tooLarge

/-- The base that the beginning of a numeral tells, and the digits after it. -/
def splitBase (cs : List Char) : Nat × List Char :=
  match cs with
  | '0' :: b :: d :: rest =>
    if b = 'b' ∨ b = 'B' then (2, d :: rest)
    else if b = 'o' ∨ b = 'O' then (8, d :: rest)
    else if b = 'x' ∨ b = 'X' then (16, d :: rest)
    else (8, b :: d :: rest)
  | '0' :: rest => (8, rest)
  | _ => (10, cs)

/-- Whether a character is a digit for the division by underscores. -/
def isDivided (hexadecimal : Bool) (c : Char) : Bool :=
  ('0' ≤ c && c ≤ '9') || (hexadecimal && (hexValue? c).isSome)

/-- Whether every underscore stands after a digit and before one. -/
def underscoresDivide (isDigit : Char → Bool) : (afterDigit : Bool) → List Char → Bool
  | _, [] => true
  | afterDigit, c :: rest =>
    if c = '_' then
      afterDigit && rest.head?.any isDigit && underscoresDivide isDigit false rest
    else underscoresDivide isDigit (isDigit c) rest

/-- Whether the underscores of a numeral without sign stand where they may. The letter after a
leading zero counts as a digit. -/
def underscoresAllowed (cs : List Char) : Bool :=
  match cs with
  | '0' :: b :: rest =>
    if b ∈ ['b', 'B', 'o', 'O'] then underscoresDivide (isDivided false) true rest
    else if b ∈ ['x', 'X'] then underscoresDivide (isDivided true) true rest
    else underscoresDivide (isDivided false) false cs
  | _ => underscoresDivide (isDivided false) false cs

/-- Reads a natural number of 64 bits. -/
def readNatural (cs : List Char) : Except NumeralError Nat :=
  if cs.isEmpty then .error .malformed
  else
    let (base, digits) := splitBase cs
    match readDigits base 0 digits with
    | .error e => .error e
    | .ok n => if underscoresAllowed cs then .ok n else .error .malformed

/-- An optional sign: whether it is a minus, and the rest. -/
def splitSign : List Char → Bool × List Char
  | '+' :: rest => (false, rest)
  | '-' :: rest => (true, rest)
  | cs => (false, cs)

/-- A magnitude with a sign, if it has 64 bits. -/
def withSign (negative : Bool) (n : Nat) : Except NumeralError Int :=
  let i : Int := if negative then -n else n
  if isInt64 i then .ok i else .error .tooLarge

/-- Reads an integer of 64 bits with an optional sign. -/
def readInteger (cs : List Char) : Except NumeralError Int :=
  let (negative, digits) := splitSign cs
  match readNatural digits with
  | .error e => .error e
  | .ok n => withSign negative n

end LeakCheck.Text
