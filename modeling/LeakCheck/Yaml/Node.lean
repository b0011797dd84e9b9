import LeakCheck.Yaml.Scanner

/-!
# The tree of a document

`Document.read` makes a tree of the tokens of the first document of a text. Items and keys that are
left out are empty scalars, and an alias is a copy of the node that has the anchor.
-/

namespace LeakCheck.Yaml

/-- A part of a document. -/
inductive Node where
  /-- A scalar. The tag is empty if none is given. A scalar that is `implicit` takes its meaning
  from its text; one between quotes does not. -/
  | scalar (tag text : String) (implicit : Bool)
  /-- A sequence of items. -/
  | sequence (items : List Node)
  /-- A mapping of keys to values. -/
  | mapping (pairs : List (Node × Node))
  /-- A node that stands elsewhere under a name. -/
  | alias (target : Node)
  deriving Repr, Inhabited

/-- The node that is left out. -/
def Node.empty : Node := .scalar "" "" true

/-- What a name stands for. -/
inductive Anchored where
  /-- The node that was begun when so many tokens were left, and has not ended. -/
  | begun (left : Nat)
  /-- A node. -/
  | ended (n : Node)
  deriving Repr, Inhabited

/-- What is known while a document is read. -/
structure Reading where
  /-- The tokens ahead. -/
  ahead : List Token
  /-- The names so far, the latest first. -/
  anchors : List (String × Anchored) := []
  /-- The short forms of tags. -/
  handles : List (String × String) := []
  deriving Repr, Inhabited

namespace Reading

/-- The token at the front. A text that is malformed has too few tokens. -/
def peek (r : Reading) : Except Fault Token :=
  match r.ahead with
  | t :: _ => .ok t
  | [] => .error .malformed

/-- Passes the token at the front. -/
def skip (r : Reading) : Reading := { r with ahead := r.ahead.drop 1 }

/-- Names a node. -/
def name (r : Reading) (anchor : Option String) (what : Anchored) : Reading :=
  match anchor with
  | some a => { r with anchors := (a, what) :: r.anchors }
  | none => r

/-- Lets the names of the node that was begun when `left` tokens were left stand for `n`. -/
def finish (r : Reading) (left : Nat) (n : Node) : Reading :=
  { r with anchors := r.anchors.map fun (a, what) =>
      match what with
      | .begun k => (a, if k = left then .ended n else what)
      | .ended _ => (a, what) }

/-- The node that a name stands for. A node does not contain itself. -/
def lookup (r : Reading) (anchor : String) : Except Fault Node :=
  match r.anchors.lookup anchor with
  | some (.ended n) => .ok n
  | _ => .error .malformed

/-- The tag that a handle and a suffix stand for. -/
def resolveTag (r : Reading) (handle suffix : String) : Except Fault String :=
  if handle = "" then .ok suffix
  else
    match r.handles.lookup handle with
    | some stem => if stem ++ suffix = "" then .error .malformed else .ok (stem ++ suffix)
    | none => .error .malformed

end Reading

/-- The name and the tag before a node. -/
structure Properties where
  /-- The name. -/
  anchor : Option String := none
  /-- The tag, which is empty if there is none. -/
  tag : String := ""
  deriving Repr, Inhabited

/-- Reads a name and a tag in either order. -/
def takeProperties (r : Reading) : Except Fault (Properties × Reading) := do
  match ← r.peek with
  | .anchor a =>
    match ← r.skip.peek with
    | .tag handle suffix => return (⟨some a, ← r.resolveTag handle suffix⟩, r.skip.skip)
    | _ => return (⟨some a, ""⟩, r.skip)
  | .tag handle suffix =>
    match ← r.skip.peek with
    | .anchor a => return (⟨some a, ← r.resolveTag handle suffix⟩, r.skip.skip)
    | _ => return (⟨none, ← r.resolveTag handle suffix⟩, r.skip)
  | _ => return ({}, r)

/-- The scalar with a tag and a text. -/
def scalarNode (tag text : String) (plain : Bool) : Node :=
  .scalar tag text ((tag == "" && plain) || tag == "!")

/-- Where a node stands, which decides what it may be. -/
inductive Context where
  /-- As an item of a block, or as a whole document. -/
  | block
  /-- In a mapping of a block, where a sequence needs no indentation. -/
  | blockMapping
  /-- Between brackets. -/
  | flow
  deriving DecidableEq, Repr, Inhabited

mutual

/-- Reads a node. -/
def takeNode : (fuel : Nat) → Context → Reading → Except Fault (Node × Reading)
  | 0, _, _ => .error .malformed
  | fuel + 1, context, r => do
    match ← r.peek with
    | .alias name => return (.alias (← r.lookup name), r.skip)
    | _ =>
      let (p, r) ← takeProperties r
      let left := r.ahead.length
      let opened := r.name p.anchor (.begun left)
      let close := fun ((n, r) : Node × Reading) => (n, r.finish left n)
      match ← r.peek with
      | .scalar text plain =>
        let n := scalarNode p.tag text plain
        return (n, r.skip.name p.anchor (.ended n))
      | .flowSequenceStart => return close (← takeFlowItems fuel true [] opened.skip)
      | .flowMappingStart => return close (← takeFlowPairs fuel true [] opened.skip)
      | t =>
        if context = .blockMapping ∧ t = .blockEntry then
          return close (← takeLooseItems fuel [] opened)
        else if context ≠ .flow ∧ t = .blockSequenceStart then
          return close (← takeBlockItems fuel [] opened.skip)
        else if context ≠ .flow ∧ t = .blockMappingStart then
          return close (← takeBlockPairs fuel [] opened.skip)
        else if p.anchor.isSome || p.tag ≠ "" then
          let n := Node.scalar p.tag "" (p.tag == "")
          return (n, r.name p.anchor (.ended n))
        else throw .malformed

/-- Reads a node, or the empty one before a token that ends its place. -/
def takeNodeUnless : (fuel : Nat) → Context → List Token → Reading →
    Except Fault (Node × Reading)
  | 0, _, _, _ => .error .malformed
  | fuel + 1, context, ends, r => do
    let t ← r.peek
    if t ∈ ends then return (.empty, r) else takeNode fuel context r

/-- Reads the items of an indented sequence. -/
def takeBlockItems : (fuel : Nat) → List Node → Reading → Except Fault (Node × Reading)
  | 0, _, _ => .error .malformed
  | fuel + 1, acc, r => do
    match ← r.peek with
    | .blockEntry =>
      let (n, r) ← takeNodeUnless fuel .block [.blockEntry, .blockEnd] r.skip
      takeBlockItems fuel (n :: acc) r
    | .blockEnd => return (.sequence acc.reverse, r.skip)
    | _ => throw .malformed

/-- Reads the items of a sequence that is not indented. -/
def takeLooseItems : (fuel : Nat) → List Node → Reading → Except Fault (Node × Reading)
  | 0, _, _ => .error .malformed
  | fuel + 1, acc, r => do
    match ← r.peek with
    | .blockEntry =>
      let (n, r) ← takeNodeUnless fuel .block [.blockEntry, .key, .value, .blockEnd] r.skip
      takeLooseItems fuel (n :: acc) r
    | _ => return (.sequence acc.reverse, r)

/-- Reads the pairs of an indented mapping. -/
def takeBlockPairs : (fuel : Nat) → List (Node × Node) → Reading → Except Fault (Node × Reading)
  | 0, _, _ => .error .malformed
  | fuel + 1, acc, r => do
    match ← r.peek with
    | .key =>
      let (k, r) ← takeNodeUnless fuel .blockMapping [.key, .value, .blockEnd] r.skip
      let (v, r) ← takeBlockValue fuel r
      takeBlockPairs fuel ((k, v) :: acc) r
    | .blockEnd => return (.mapping acc.reverse, r.skip)
    | _ => throw .malformed

/-- Reads the value of a pair of an indented mapping. -/
def takeBlockValue : (fuel : Nat) → Reading → Except Fault (Node × Reading)
  | 0, _ => .error .malformed
  | fuel + 1, r => do
    match ← r.peek with
    | .value => takeNodeUnless fuel .blockMapping [.key, .value, .blockEnd] r.skip
    | _ => return (.empty, r)

/-- Reads the items of a sequence between brackets. A pair among them is a mapping of its own. -/
def takeFlowItems : (fuel : Nat) → (first : Bool) → List Node → Reading →
    Except Fault (Node × Reading)
  | 0, _, _, _ => .error .malformed
  | fuel + 1, first, acc, r => do
    let t ← r.peek
    if t = .flowSequenceEnd then return (.sequence acc.reverse, r.skip)
    if !first ∧ t ≠ .flowEntry then throw .malformed
    let r := if first then r else r.skip
    match ← r.peek with
    | .flowSequenceEnd => return (.sequence acc.reverse, r.skip)
    | .key =>
      let (n, r) ← takeFlowPair fuel r.skip
      takeFlowItems fuel false (n :: acc) r
    | _ =>
      let (n, r) ← takeNode fuel .flow r
      takeFlowItems fuel false (n :: acc) r

/-- Reads a pair among the items of a sequence between brackets. If its key is left out, the token
that shows this is passed over. -/
def takeFlowPair : (fuel : Nat) → Reading → Except Fault (Node × Reading)
  | 0, _ => .error .malformed
  | fuel + 1, r => do
    let t ← r.peek
    let (k, r) ←
      if t ∈ [.value, .flowEntry, .flowSequenceEnd] then pure (.empty, r.skip)
      else takeNode fuel .flow r
    match ← r.peek with
    | .value =>
      let (v, r) ← takeNodeUnless fuel .flow [.flowEntry, .flowSequenceEnd] r.skip
      return (.mapping [(k, v)], r)
    | _ => return (.mapping [(k, .empty)], r)

/-- Reads the pairs of a mapping between braces. -/
def takeFlowPairs : (fuel : Nat) → (first : Bool) → List (Node × Node) → Reading →
    Except Fault (Node × Reading)
  | 0, _, _, _ => .error .malformed
  | fuel + 1, first, acc, r => do
    let t ← r.peek
    if t = .flowMappingEnd then return (.mapping acc.reverse, r.skip)
    if !first ∧ t ≠ .flowEntry then throw .malformed
    let r := if first then r else r.skip
    match ← r.peek with
    | .flowMappingEnd => return (.mapping acc.reverse, r.skip)
    | .key =>
      let (k, r) ← takeNodeUnless fuel .flow [.value, .flowEntry, .flowMappingEnd] r.skip
      match ← r.peek with
      | .value =>
        let (v, r) ← takeNodeUnless fuel .flow [.flowEntry, .flowMappingEnd] r.skip
        takeFlowPairs fuel false ((k, v) :: acc) r
      | _ => takeFlowPairs fuel false ((k, .empty) :: acc) r
    | _ =>
      let (k, r) ← takeNode fuel .flow r
      takeFlowPairs fuel false ((k, .empty) :: acc) r

end

/-! ## Documents -/

/-- The tags that need no declaration. -/
def standardHandles : List (String × String) := [("!", "!"), ("!!", "tag:yaml.org,2002:")]

/-- Reads the directives before a document. The version may be declared once, and every handle. -/
def takeDirectives : (fuel : Nat) → (version : Bool) → Reading → Except Fault Reading
  | 0, _, _ => .error .malformed
  | fuel + 1, version, r => do
    match ← r.peek with
    | .versionDirective major minor =>
      if version ∨ major ≠ 1 ∨ minor ≠ 1 then throw .malformed
      takeDirectives fuel true r.skip
    | .tagDirective handle stem =>
      if (r.handles.lookup handle).isSome then throw .malformed
      takeDirectives fuel version { r.skip with handles := (handle, stem) :: r.handles }
    | _ => return r

/-- Whether a token stands between documents. -/
def isDocumentToken : Token → Bool
  | .versionDirective .. | .tagDirective .. | .documentStart | .documentEnd | .streamEnd => true
  | _ => false

/-- The first document of a text, if there is one. -/
def Document.read (text : List Char) : Except Fault (Option Node) := do
  let r : Reading := { ahead := (tokens text).drop 1 }
  let fuel := 4 * r.ahead.length + 4
  match ← r.peek with
  | .streamEnd => return none
  | t =>
    if isDocumentToken t ∧ t ≠ .documentEnd then
      let r ← takeDirectives fuel false r
      if (← r.peek) ≠ .documentStart then throw .malformed
      let r := { r.skip with handles := r.handles ++ standardHandles }
      if isDocumentToken (← r.peek) then return some .empty
      let (n, r) ← takeNode fuel .block r
      discard r.peek
      return some n
    else
      let (n, r) ← takeNode fuel .block { r with handles := standardHandles }
      discard r.peek
      return some n

end LeakCheck.Yaml
