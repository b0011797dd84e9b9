import LeakCheck.Json.Basic
import LeakCheck.Number.Shortest
import LeakCheck.Text.Order
import LeakCheck.Yaml.Value

/-!
# YAML values as JSON

Keys become texts, and the members of objects are in the order of their keys. Where a text is
expected, a truth value or a number becomes its text.
-/

namespace LeakCheck.Yaml

/-- The text of a number as a key or where a text is expected. -/
def floatText (x : Number.Binary) : String := Number.single.text (Number.single.convert x)

/-- The text of a key. Nothing and integers beyond 64 bits with sign are no keys. -/
def Value.keyText? : Value → Option String
  | .text s => some s
  | .integer n => if Text.isInt64 n then some (toString n) else none
  | .bool b => some (if b then "true" else "false")
  | .float x =>
    match floatText x with
    | "+Inf" => some ".inf"
    | "-Inf" => some "-.inf"
    | "NaN" => some ".nan"
    | s => some s
  | _ => none

/-- The text of a scalar where a text is expected. -/
def Value.scalarText? : Value → Option String
  | .integer n => some (toString n)
  | .float x => some (floatText x)
  | .bool b => some (if b then "true" else "false")
  | _ => none

mutual

/-- The value as JSON. Infinities have no place there. -/
def Value.toJson? : Value → Option Json
  | .null => some .null
  | .bool b => some (.bool b)
  | .integer n => some (.number (toString n))
  | .float x =>
    match x with
    | .finite .. => some (.number (Number.double.text x))
    | _ => none
  | .text s => some (.string s)
  | .sequence items => (itemsToJson? items).map .array
  | .mapping pairs =>
    (membersToJson? pairs).map fun members => .object (Text.sortByText (·.1) members)

/-- The items of a sequence as JSON. -/
def itemsToJson? : List Value → Option (List Json)
  | [] => some []
  | v :: rest =>
    match v.toJson?, itemsToJson? rest with
    | some j, some js => some (j :: js)
    | _, _ => none

/-- The pairs of a mapping as members of an object. -/
def membersToJson? : List (Value × Value) → Option (List (String × Json))
  | [] => some []
  | (k, v) :: rest =>
    match k.keyText?, v.toJson?, membersToJson? rest with
    | some key, some j, some members => some ((key, j) :: members)
    | _, _, _ => none

end

/-- The value of a member as JSON; if a text is expected, a scalar becomes one. -/
def Value.memberJson? (expectsText : Bool) (v : Value) : Option Json :=
  match expectsText, v.scalarText? with
  | true, some s => some (.string s)
  | _, _ => v.toJson?

/-- A value as JSON, with a text under the keys that satisfy `expectsText`. -/
def Value.recordJson? (expectsText : String → Bool) : Value → Option Json
  | .mapping pairs => do
    let members ← pairs.mapM fun (k, v) => do
      let key ← k.keyText?
      return (key, ← v.memberJson? (expectsText key))
    return .object (Text.sortByText (·.1) members)
  | v => v.toJson?

end LeakCheck.Yaml
