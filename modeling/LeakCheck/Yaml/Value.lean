import LeakCheck.Yaml.Node
import LeakCheck.Yaml.Scalar

/-!
# Values of documents

The value that the tree of a document means. The key `<<` takes over the pairs of other mappings.
No mapping has a key twice, and keys are scalars.
-/

namespace LeakCheck.Yaml

/-- A value. -/
inductive Value where
  | null
  | bool (b : Bool)
  | integer (n : Int)
  | float (x : Number.Binary)
  | text (s : String)
  | sequence (items : List Value)
  | mapping (pairs : List (Value × Value))
  deriving Repr, Inhabited

/-- The value of a scalar. -/
def Value.ofScalar : Scalar → Value
  | .null => .null
  | .bool b => .bool b
  | .integer n => .integer n
  | .float x => .float x
  | .time s => .text s
  | .text s => .text s

/-- Whether two keys are equal. -/
def Value.sameKey : Value → Value → Bool
  | .null, .null => true
  | .bool a, .bool b => a == b
  | .integer a, .integer b => a == b
  | .float a, .float b => a.equal b
  | .text a, .text b => a == b
  | _, _ => false

/-- Whether a value can be a key. -/
def Value.isKey : Value → Bool
  | .sequence _ | .mapping _ => false
  | _ => true

/-- Whether the keys of pairs can be keys and are distinct. -/
def validKeys : List (Value × Value) → Bool
  | [] => true
  | (k, _) :: rest => k.isKey && !rest.any (k.sameKey ·.1) && validKeys rest

/-- Whether a node is the key that takes over other mappings. -/
def Node.isMerge : Node → Bool
  | .scalar tag text implicit => text == "<<" && (implicit || tag == standardTag "merge")
  | _ => false

/-- Whether a node is a mapping, maybe one that stands elsewhere. -/
def Node.isMapping : Node → Bool
  | .mapping _ => true
  | .alias (.mapping _) => true
  | _ => false

/-- Whether the key `<<` can have a node as its value: a mapping or a sequence of mappings. -/
def Node.isMergeable : Node → Bool
  | .sequence items => items.all Node.isMapping
  | n => n.isMapping

/-- The pairs of a mapping, or of all mappings of a sequence. -/
def Value.pairs : Value → List (Value × Value)
  | .mapping pairs => pairs
  | .sequence items => items.flatMap fun
    | .mapping pairs => pairs
    | _ => []
  | _ => []

mutual

/-- The value that a node means. -/
def Node.value : Node → Except Fault Value
  | .scalar tag text implicit => (meaning tag text implicit).map Value.ofScalar
  | .alias target => target.value
  | .sequence items => (valuesOf items).map .sequence
  | .mapping pairs =>
    match pairsOf pairs with
    | .error e => .error e
    | .ok pairs => if validKeys pairs then .ok (.mapping pairs) else .error .malformed

/-- The values that nodes mean. -/
def valuesOf : List Node → Except Fault (List Value)
  | [] => .ok []
  | n :: rest =>
    match n.value, valuesOf rest with
    | .ok v, .ok vs => .ok (v :: vs)
    | _, _ => .error .malformed

/-- The pairs that pairs of nodes mean. -/
def pairsOf : List (Node × Node) → Except Fault (List (Value × Value))
  | [] => .ok []
  | (k, n) :: rest =>
    match n.value, pairsOf rest with
    | .ok v, .ok pairs =>
      if k.isMerge then
        if n.isMergeable then .ok (v.pairs ++ pairs) else .error .malformed
      else
        match k.value with
        | .ok key => .ok ((key, v) :: pairs)
        | .error e => .error e
    | _, _ => .error .malformed

end

/-! ## Aliases

A small text can stand for a huge value if aliases contain aliases. Such texts are refused: while
the nodes are counted, those inside of aliases must not be nearly all.
-/

/-- The numbers of nodes so far, and of those inside of aliases; `none` if these were too many. -/
abbrev Census := Option (Nat × Nat)

/-- Whether so many of all nodes may be inside of aliases. -/
def isModest (all inside : Nat) : Bool :=
  inside ≤ 100 || all ≤ 1000 ||
    (if all ≤ 400000 then 100 * inside ≤ 99 * all
    else if 4000000 ≤ all then 10 * inside ≤ all
    else 360000000 * inside ≤ (356400000 - 89 * (all - 400000)) * all)

/-- Counts one node. -/
def Census.add (c : Census) (inAlias : Bool) : Census :=
  c.bind fun (all, inside) =>
    let inside := if inAlias then inside + 1 else inside
    if isModest (all + 1) inside then some (all + 1, inside) else none

mutual

/-- Counts a node and those in it. -/
def Node.census (inAlias : Bool) (c : Census) : Node → Census
  | .scalar .. => c.add inAlias
  | .alias target =>
    match c.add inAlias with
    | none => none
    | some c => target.census true (some c)
  | .sequence items =>
    match c.add inAlias with
    | none => none
    | some c => censusOf inAlias (some c) items
  | .mapping pairs =>
    match c.add inAlias with
    | none => none
    | some c => censusOfPairs inAlias (some c) pairs

/-- Counts nodes. -/
def censusOf (inAlias : Bool) (c : Census) : List Node → Census
  | [] => c
  | n :: rest =>
    match n.census inAlias c with
    | none => none
    | some c => censusOf inAlias (some c) rest

/-- Counts the nodes of pairs. -/
def censusOfPairs (inAlias : Bool) (c : Census) : List (Node × Node) → Census
  | [] => c
  | (k, v) :: rest =>
    match k.census inAlias c with
    | none => none
    | some c =>
      match v.census inAlias (some c) with
      | none => none
      | some c => censusOfPairs inAlias (some c) rest

end

/-! ## Texts -/

/-- The characters of UTF-16 code units, given as pairs of bytes. -/
def ofUnits? : List Nat → Option (List Char)
  | [] => some []
  | u :: rest =>
    if 0xd800 ≤ u ∧ u < 0xdc00 then
      match rest with
      | w :: rest =>
        if 0xdc00 ≤ w ∧ w < 0xe000 then
          (ofUnits? rest).map (Char.ofNat (0x10000 + (u - 0xd800) * 0x400 + (w - 0xdc00)) :: ·)
        else none
      | [] => none
    else if 0xdc00 ≤ u ∧ u < 0xe000 then none
    else (ofUnits? rest).map (Char.ofNat u :: ·)

/-- Pairs of bytes as code units. -/
def units? (unit : UInt8 → UInt8 → Nat) : List UInt8 → Option (List Nat)
  | [] => some []
  | a :: b :: rest => (units? unit rest).map (unit a b :: ·)
  | [_] => none

/-- The characters of a text. A mark at its beginning tells its encoding, which is else UTF-8. An
empty text is an empty line. -/
def decodeText (bytes : List UInt8) : Except Fault (List Char) :=
  let chars :=
    match bytes with
    | [] => some ['\n']
    | 0xff :: 0xfe :: rest => (units? (fun a b => a.toNat + 256 * b.toNat) rest).bind ofUnits?
    | 0xfe :: 0xff :: rest => (units? (fun a b => 256 * a.toNat + b.toNat) rest).bind ofUnits?
    | 0xef :: 0xbb :: 0xbf :: rest => Text.decode? rest
    | _ => Text.decode? bytes
  match chars with
  | some cs => if cs.all isAllowed then .ok cs else .error .malformed
  | none => .error .malformed

/-- The value of the first document of a text; without one it is nothing. -/
def read (bytes : List UInt8) : Except Fault Value := do
  match ← Document.read (← decodeText bytes) with
  | none => return .null
  | some n =>
    if (n.census false (some (1, 0))).isNone then throw .malformed
    n.value

end LeakCheck.Yaml
