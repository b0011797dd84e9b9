import LeakCheck.Text.Utf8
import LeakCheck.Yaml.Cursor

/-!
# Names, tags and directives

The parts of YAML text that begin with `&`, `*`, `!` or `%`. A tag is a handle, which a directive
may declare, and a suffix.
-/

namespace LeakCheck.Yaml

/-- Reads the name after the sign of an anchor or an alias. -/
def takeName (c : Cursor) : Except Fault (String × Cursor) :=
  let (name, c) := (c.skip 1).takeWhile isNameChar
  let follows : Bool :=
    match c.rest with
    | [] => true
    | d :: _ => isBlank d || isBreak d || d ∈ ['?', ':', ',', ']', '\x7d', '%', '@', '\x60']
  if name.isEmpty || !follows then .error .malformed else .ok (String.ofList name, c)

/-! ## Tags -/

/-- A character that may stand in a tag. -/
def isTagChar (c : Char) : Bool :=
  isNameChar c || c ∈ [';', '/', '?', ':', '@', '&', '=', '+', '$', ',', '.', '!', '~', '*', '\'',
    '(', ')', '[', ']', '%']

/-- The number of bytes of a sequence by its first byte; none if that begins no sequence. -/
def sequenceWidth? (n : Nat) : Option Nat :=
  if n < 0x80 then some 1
  else if 0xc0 ≤ n ∧ n < 0xe0 then some 2
  else if 0xe0 ≤ n ∧ n < 0xf0 then some 3
  else if 0xf0 ≤ n ∧ n < 0xf8 then some 4
  else none

/-- The byte that a percent sign and two hexadecimal digits at the front stand for. -/
def percentByte? : List Char → Option Nat
  | '%' :: a :: b :: _ => Text.hexNat? [a, b]
  | _ => none

/-- The bytes of the sequence that escapes at the front stand for. -/
def percentBytes? (cs : List Char) : Option (List UInt8) := do
  let first ← percentByte? cs
  let width ← sequenceWidth? first
  let more ← (List.range (width - 1)).mapM fun i => percentByte? (cs.drop (3 * (i + 1)))
  guard (more.all fun n => 0x80 ≤ n && n < 0xc0)
  return (first :: more).map Nat.toUInt8

/-- Reads characters of a tag, of which `text` was read before. -/
def takeTagText : (fuel : Nat) → List Char → Cursor → Except Fault (List Char × Cursor)
  | 0, text, c => .ok (text, c)
  | fuel + 1, text, c =>
    match c.rest with
    | '%' :: _ =>
      match percentBytes? c.rest with
      | none => .error .malformed
      | some bytes =>
        takeTagText fuel (text ++ Text.decodeLossy bytes) (c.skip (3 * bytes.length))
    | d :: _ => if isTagChar d then takeTagText fuel (text ++ [d]) (c.skip 1) else .ok (text, c)
    | [] => .ok (text, c)

/-- Reads the suffix of a tag, which must not be empty. -/
def takeSuffix (c : Cursor) : Except Fault (List Char × Cursor) :=
  match takeTagText (c.rest.length + 1) [] c with
  | .error e => .error e
  | .ok (text, next) => if next.index = c.index then .error .malformed else .ok (text, next)

/-- Reads `!`, the characters of a name and a further `!` if one follows. -/
def takeHandle (c : Cursor) : Except Fault (List Char × Cursor) :=
  match c.rest with
  | '!' :: _ =>
    let (name, c) := (c.skip 1).takeWhile isNameChar
    match c.rest with
    | '!' :: _ => .ok ('!' :: name ++ ['!'], c.skip 1)
    | _ => .ok ('!' :: name, c)
  | _ => .error .malformed

/-- Whether a handle is closed by a second `!`. -/
def isClosedHandle (handle : List Char) : Bool :=
  1 < handle.length && handle.getLast? == some '!'

/-- Reads a tag as a handle and a suffix. A tag in full has no handle, and the tag `!` has only a
suffix. -/
def takeTag (c : Cursor) : Except Fault (Token × Cursor) := do
  let (handle, suffix, c) ←
    match c.rest with
    | '!' :: '<' :: _ => do
      let (suffix, c) ← takeSuffix (c.skip 2)
      match c.rest with
      | '>' :: _ => pure ([], suffix, c.skip 1)
      | _ => throw .malformed
    | _ => do
      let (handle, c) ← takeHandle c
      if isClosedHandle handle then
        let (suffix, c) ← takeSuffix c
        pure (handle, suffix, c)
      else
        let (suffix, c) ← takeTagText (c.rest.length + 1) (handle.drop 1) c
        if suffix.isEmpty then pure ([], ['!'], c) else pure (['!'], suffix, c)
  if !atBlankOrEnd c.rest then throw .malformed
  return (.tag (String.ofList handle) (String.ofList suffix), c)

/-! ## Directives -/

/-- Reads a number of at most two digits. -/
def takeVersionNumber (c : Cursor) : Except Fault (Nat × Cursor) :=
  let (digits, c) := c.takeWhile fun d => '0' ≤ d && d ≤ '9'
  if digits.isEmpty || 2 < digits.length then .error .malformed
  else .ok (digits.foldl (fun n d => 10 * n + (d.toNat - 48)) 0, c)

/-- Reads the version that a directive declares. -/
def takeVersion (c : Cursor) : Except Fault (Token × Cursor) := do
  let (major, c) ← takeVersionNumber (c.skipWhile isBlank)
  if c.rest.head? ≠ some '.' then throw .malformed
  let (minor, c) ← takeVersionNumber (c.skip 1)
  return (.versionDirective major minor, c)

/-- Reads the handle that a directive declares and what it stands for. -/
def takeShorthand (c : Cursor) : Except Fault (Token × Cursor) := do
  let (handle, c) ← takeHandle (c.skipWhile isBlank)
  if handle ≠ ['!'] ∧ !isClosedHandle handle then throw .malformed
  if !atBlank c.rest then throw .malformed
  let (stem, c) ← takeSuffix (c.skipWhile isBlank)
  if !atBlankOrEnd c.rest then throw .malformed
  return (.tagDirective (String.ofList handle) (String.ofList stem), c)

/-- Reads a directive up to the end of its line. -/
def takeDirective (c : Cursor) : Except Fault (Token × Cursor) := do
  let (name, c) := (c.skip 1).takeWhile isNameChar
  if name.isEmpty || !atBlankOrEnd c.rest then throw .malformed
  let (token, c) ←
    if name = "YAML".toList then takeVersion c
    else if name = "TAG".toList then takeShorthand c
    else throw .malformed
  let c := (c.skipWhile isBlank).skipComment
  if !atBreakOrEnd c.rest then throw .malformed
  return (token, c.skipBreak)

end LeakCheck.Yaml
