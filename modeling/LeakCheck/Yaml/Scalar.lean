import LeakCheck.Number.Binary
import LeakCheck.Text.Numeral
import LeakCheck.Text.Utf8
import LeakCheck.Yaml.Token

/-!
# What scalars mean

A scalar without quotes and without tag is a truth value, a number or nothing if its text is written
like one, and a text otherwise. A tag says what it has to be.
-/

namespace LeakCheck.Yaml

/-- The meaning of a scalar. -/
inductive Scalar where
  | null
  | bool (b : Bool)
  | integer (n : Int)
  | float (x : Number.Binary)
  /-- A text that is a point in time. -/
  | time (s : String)
  | text (s : String)
  deriving DecidableEq, Repr, Inhabited

/-! ## Integers -/

/-- Reads an integer: with a sign of 64 bits, or without one of 64 bits. -/
def integer? (cs : List Char) : Option Int :=
  match Text.readInteger cs with
  | .ok i => some i
  | .error _ => (Text.readNatural cs).toOption.map Int.ofNat

/-- Reads binary digits after a sign. -/
def signedBinary? (cs : List Char) : Option Int :=
  let (negative, digits) := Text.splitSign cs
  if digits.isEmpty then none
  else (Text.readDigits 2 0 digits).toOption.bind fun n => (Text.withSign negative n).toOption

/-- Reads an integer whose sign stands after the mark of binary digits. -/
def binary? : List Char → Option Int
  | '0' :: 'b' :: rest =>
    match signedBinary? rest with
    | some i => some i
    | none =>
      if rest.isEmpty then none else (Text.readDigits 2 0 rest).toOption.map Int.ofNat
  | '-' :: '0' :: 'b' :: rest => signedBinary? ('-' :: rest)
  | _ => none

/-! ## Decimal numbers -/

/-- The parts of a decimal number. -/
structure Decimal where
  /-- Whether it has a minus. -/
  negative : Bool
  /-- The digits before the point. -/
  whole : List Char
  /-- The digits after the point. -/
  fraction : List Char
  /-- The exponent. -/
  exponent : Int
  deriving Repr, Inhabited

/-- Whether a character is a decimal digit. -/
def isDigit (c : Char) : Bool := '0' ≤ c && c ≤ '9'

/-- Reads an exponent, which may be left out. -/
def exponent? : List Char → Option Int
  | [] => some 0
  | e :: rest =>
    if e = 'e' ∨ e = 'E' then Text.signedOfDigits? rest else none

/-- Reads a decimal number: a sign, digits of which some may stand after a point, and an
exponent. -/
def decimal? (cs : List Char) : Option Decimal := do
  let (negative, cs) := Text.splitSign cs
  let whole := cs.takeWhile isDigit
  let (fraction, rest) :=
    match cs.dropWhile isDigit with
    | '.' :: rest => (rest.takeWhile isDigit, rest.dropWhile isDigit)
    | rest => ([], rest)
  if whole.isEmpty && fraction.isEmpty then none
  return ⟨negative, whole, fraction, ← exponent? rest⟩

/-- The number of 64 bits that a decimal number is nearest to, unless it is too large. -/
def Decimal.toDouble? (d : Decimal) : Option Number.Binary :=
  match Text.natOfDigits? (d.whole ++ d.fraction) with
  | none => none
  | some n =>
    match Number.double.ofDecimal d.negative n (d.exponent - d.fraction.length) with
    | .infinite _ => none
    | x => some x

/-- Reads a number that begins with a point. -/
def pointed? (cs : List Char) : Option Number.Binary :=
  if Text.underscoresDivide isDigit false cs then
    (decimal? (cs.filter (· ≠ '_'))).bind Decimal.toDouble?
  else none

/-! ## Points in time -/

/-- Reads a number of one or two digits. -/
def takeTwoDigits : List Char → Option (Nat × List Char)
  | a :: b :: rest =>
    match Text.digitValue? a, Text.digitValue? b with
    | some x, some y => some (10 * x + y, rest)
    | some x, none => some (x, b :: rest)
    | none, _ => none
  | [a] => (Text.digitValue? a).map (·, [])
  | [] => none

/-- Passes a character. -/
def expect (c : Char) : List Char → Option (List Char)
  | d :: rest => if c = d then some rest else none
  | [] => none

/-- The number of days of a month. -/
def daysIn (year month : Nat) : Nat :=
  if month = 2 then
    if year % 4 = 0 ∧ (year % 100 ≠ 0 ∨ year % 400 = 0) then 29 else 28
  else if month = 4 ∨ month = 6 ∨ month = 9 ∨ month = 11 then 30
  else 31

/-- Reads a date that begins with a year of four digits. -/
def takeDate (cs : List Char) : Option (List Char) := do
  let digits := cs.takeWhile isDigit
  guard (digits.length = 4)
  let year ← Text.natOfDigits? digits
  let (month, cs) ← takeTwoDigits (← expect '-' (cs.drop 4))
  let (day, cs) ← takeTwoDigits (← expect '-' cs)
  guard (1 ≤ month ∧ month ≤ 12 ∧ 1 ≤ day ∧ day ≤ daysIn year month)
  return cs

/-- Reads a time of day with an optional fraction of a second. -/
def takeTime (cs : List Char) : Option (List Char) := do
  let (hour, cs) ← takeTwoDigits cs
  let (minute, cs) ← takeTwoDigits (← expect ':' cs)
  let (second, cs) ← takeTwoDigits (← expect ':' cs)
  guard (hour < 24 ∧ minute < 60 ∧ second < 60)
  match cs with
  | p :: d :: _ =>
    if (p = '.' ∨ p = ',') ∧ isDigit d then return (cs.drop 1).dropWhile isDigit else return cs
  | _ => return cs

/-- Whether a text is the name of a time zone: `Z`, or hours and minutes with a sign. -/
def isZone : List Char → Bool
  | ['Z'] => true
  | [s, a, b, ':', c, d] =>
    (s == '+' || s == '-') &&
      (((Text.natOfDigits? [a, b]).any (· ≤ 24)) && ((Text.natOfDigits? [c, d]).any (· ≤ 60)))
  | _ => false

/-- Whether a text is a date, or a date and a time. -/
def isTime (cs : List Char) : Bool :=
  match takeDate cs with
  | none => false
  | some [] => true
  | some (c :: rest) =>
    if c = ' ' then takeTime rest = some []
    else if c = 'T' ∨ c = 't' then (takeTime rest).any isZone
    else false

/-! ## Meaning -/

/-- The texts that have a meaning of their own. -/
def wordMeaning? (s : String) : Option Scalar :=
  if s ∈ ["y", "Y", "yes", "Yes", "YES", "true", "True", "TRUE", "on", "On", "ON"] then
    some (.bool true)
  else if s ∈ ["n", "N", "no", "No", "NO", "false", "False", "FALSE", "off", "Off", "OFF"] then
    some (.bool false)
  else if s ∈ ["", "~", "null", "Null", "NULL"] then some .null
  else if s ∈ [".nan", ".NaN", ".NAN"] then some (.float .undefined)
  else if s ∈ [".inf", ".Inf", ".INF", "+.inf", "+.Inf", "+.INF"] then
    some (.float (.infinite false))
  else if s ∈ ["-.inf", "-.Inf", "-.INF"] then some (.float (.infinite true))
  else none

/-- The number that a text writes. -/
def number? (cs : List Char) : Option Scalar :=
  let plain := cs.filter (· ≠ '_')
  match integer? plain with
  | some i => some (.integer i)
  | none =>
    match (decimal? plain).bind Decimal.toDouble? with
    | some x => some (.float x)
    | none => (binary? plain).map .integer

/-- The meaning of a text that stands without quotes. Points in time are recognised if `times` is
set. -/
def plainMeaning (times : Bool) (s : String) : Scalar :=
  match wordMeaning? s with
  | some v => v
  | none =>
    match s.toList with
    | '.' :: rest => ((pointed? ('.' :: rest)).map Scalar.float).getD (.text s)
    | c :: rest =>
      if isDigit c || c == '+' || c == '-' then
        if times && isTime (c :: rest) then .time s else (number? (c :: rest)).getD (.text s)
      else .text s
    | [] => .text s

/-! ## Bytes in text -/

/-- The value of a digit of base 64. -/
def digit64? (c : Char) : Option Nat :=
  if 'A' ≤ c ∧ c ≤ 'Z' then some (c.toNat - 65)
  else if 'a' ≤ c ∧ c ≤ 'z' then some (c.toNat - 71)
  else if '0' ≤ c ∧ c ≤ '9' then some (c.toNat + 4)
  else if c = '+' then some 62
  else if c = '/' then some 63
  else none

/-- The bytes that digits of base 64 write, four digits for three bytes; the last group is filled up
with equals signs. -/
def bytes64? : List Char → Option (List UInt8)
  | [] => some []
  | a :: b :: c :: d :: rest => do
    let x ← digit64? a
    let y ← digit64? b
    if c = '=' then
      if d = '=' ∧ rest.isEmpty then return [(x * 4 + y / 16).toUInt8] else none
    else
      let z ← digit64? c
      let first := [(x * 4 + y / 16).toUInt8, (y * 16 + z / 4).toUInt8]
      if d = '=' then
        if rest.isEmpty then return first else none
      else
        let w ← digit64? d
        return first ++ [(z * 64 + w).toUInt8] ++ (← bytes64? rest)
  | _ => none

/-! ## Tags -/

/-- The tag of the standard kind with a name. -/
def standardTag (name : String) : String := "tag:yaml.org,2002:" ++ name

/-- The kind of a meaning as a tag names it. -/
def Scalar.kind : Scalar → String
  | .null => "null"
  | .bool _ => "bool"
  | .integer _ => "int"
  | .float _ => "float"
  | .time _ => "timestamp"
  | .text _ => "str"

/-- The meaning of a scalar that has to be of a kind. An integer can be meant as a float. -/
def Scalar.asKind (v : Scalar) (kind : String) : Except Fault Scalar :=
  if v.kind = kind then .ok v
  else
    match v with
    | .integer n =>
      if kind = "float" ∧ Text.isInt64 n then
        .ok (.float (Number.double.round (n < 0) n.natAbs 1))
      else .error .malformed
    | _ => .error .malformed

/-- The meaning of a scalar with a tag, which is empty if there is none, and a text. -/
def meaning (tag text : String) (implicit : Bool) : Except Fault Scalar :=
  if tag = "" then .ok (if implicit then plainMeaning true text else .text text)
  else if tag = standardTag "binary" then
    match bytes64? (text.toList.filter fun c => c ≠ '\n' ∧ c ≠ '\r') with
    | some bytes => .ok (.text (String.ofList (Text.decodeLossy bytes)))
    | none => .error .malformed
  else
    match ["bool", "int", "float", "null", "timestamp"].find? (tag = standardTag ·) with
    | some kind => (plainMeaning (kind = "timestamp") text).asKind kind
    | none => .ok (.text text)

end LeakCheck.Yaml
