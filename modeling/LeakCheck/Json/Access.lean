import LeakCheck.Json.Basic
import LeakCheck.Text.Decimal

/-!
# The parts of JSON values

What is not there, or is of another type, counts as null, zero or empty.
-/

namespace LeakCheck.Json

/-- The members of an object. -/
def members : Json → List (String × Json)
  | .object ms => ms
  | _ => []

/-- The items of an array. -/
def items : Json → List Json
  | .array js => js
  | _ => []

/-- The value of a key, if the key is there. -/
def get? (j : Json) (key : String) : Option Json := j.members.lookup key

/-- The value of a key. -/
def get (j : Json) (key : String) : Json := (j.get? key).getD .null

/-- A string. -/
def toText : Json → String
  | .string s => s
  | _ => ""

/-- An integer. -/
def toInt : Json → Int
  | .number digits => (Text.readInt? digits).getD 0
  | _ => 0

/-- A natural number. -/
def toNat (j : Json) : Nat := j.toInt.toNat

/-- A truth value. -/
def toBool : Json → Bool
  | .bool b => b
  | _ => false

/-- The string under a key. -/
def text (j : Json) (key : String) : String := (j.get key).toText

/-- The integer under a key. -/
def int (j : Json) (key : String) : Int := (j.get key).toInt

/-- The natural number under a key. -/
def nat (j : Json) (key : String) : Nat := (j.get key).toNat

/-- The natural number under a key, if the key is there. -/
def nat? (j : Json) (key : String) : Option Nat := (j.get? key).map toNat

/-- The items under a key. -/
def list (j : Json) (key : String) : List Json := (j.get key).items

/-- The natural numbers under a key. -/
def nats (j : Json) (key : String) : List Nat := (j.list key).map toNat

/-- The strings under a key. -/
def texts (j : Json) (key : String) : List String := (j.list key).map toText

/-- Whether a value is null. -/
def isNull : Json → Bool
  | .null => true
  | _ => false

end LeakCheck.Json
