import LeakCheck.Yaml.Cursor

/-!
# The text of scalars

Scalars are written plainly, between quotes or as indented blocks. Line breaks inside of them are
folded: a single one is a space, and of several the first is dropped.
-/

namespace LeakCheck.Yaml

/-- White space and line breaks that were met inside of a scalar. -/
structure Gap where
  /-- Blanks in the line, while no line break was met. -/
  blanks : List Char := []
  /-- The first line break. -/
  firstBreak : List Char := []
  /-- The further line breaks. -/
  moreBreaks : List Char := []
  /-- Whether a line ended. -/
  broken : Bool := false
  deriving Inhabited

/-- What a gap comes to between two parts of a scalar. -/
def Gap.folded (g : Gap) : List Char :=
  if g.broken then
    if g.firstBreak.head? = some '\n' then
      if g.moreBreaks.isEmpty then [' '] else g.moreBreaks
    else g.firstBreak ++ g.moreBreaks
  else g.blanks

/-- Passes white space and line breaks. With a plain scalar, a tab before the column `indent` of a
new line is refused. -/
def takeGap (indent : Option Nat) : (fuel : Nat) → Gap → Cursor → Except Fault (Gap × Cursor)
  | 0, g, c => .ok (g, c)
  | fuel + 1, g, c =>
    match c.rest with
    | b :: _ =>
      if isBlank b then
        if g.broken && b == '\t' && indent.any (c.column < ·) then .error .malformed
        else if g.broken then takeGap indent fuel g (c.skip 1)
        else takeGap indent fuel { g with blanks := g.blanks ++ [b] } (c.skip 1)
      else if isBreak b then
        let (text, next) := c.takeBreak
        if g.broken then takeGap indent fuel { g with moreBreaks := g.moreBreaks ++ text } next
        else takeGap indent fuel ⟨[], text, g.moreBreaks, true⟩ next
      else .ok (g, c)
    | [] => .ok (g, c)

/-! ## Plain scalars -/

/-- Whether a plain scalar ends before what is at the front. -/
def endsPlain (inFlow : Bool) : List Char → Bool
  | [] => true
  | ':' :: rest => atBlankOrEnd rest
  | c :: _ =>
    isBlank c || isBreak c || (inFlow && (c == ',' || c == '?' || c == '[' || c == ']' ||
      c == '\x7b' || c == '\x7d'))

/-- The characters of a plain scalar up to a blank, a line break or its end. -/
def takePlainWord (inFlow : Bool) : List Char → List Char
  | [] => []
  | c :: rest => if endsPlain inFlow (c :: rest) then [] else c :: takePlainWord inFlow rest

/-- The rest of a plain scalar. The parts read so far are in `text`, and `gap` was met after them.
Besides the text it is told whether the scalar ended after a line break. -/
def takePlain (inFlow : Bool) (indent : Nat) :
    (fuel : Nat) → List Char → Gap → Cursor → Except Fault (List Char × Bool × Cursor)
  | 0, text, gap, c => .ok (text, gap.broken, c)
  | fuel + 1, text, gap, c =>
    if (c.column == 0 && atDocumentMark c.rest) || c.rest.head? == some '#' then
      .ok (text, gap.broken, c)
    else
      let word := takePlainWord inFlow c.rest
      let c := c.skip word.length
      let text := if word.isEmpty then text else text ++ gap.folded ++ word
      let gap := if word.isEmpty then gap else {}
      if atBlank c.rest || atBreak c.rest then
        match takeGap (some indent) (c.rest.length + 1) gap c with
        | .error e => .error e
        | .ok (gap, c) =>
          if !inFlow && c.column < indent then .ok (text, gap.broken, c)
          else takePlain inFlow indent fuel text gap c
      else .ok (text, gap.broken, c)

/-! ## Quoted scalars -/

/-- The characters that an escape of one letter stands for. -/
def escapedChar? : Char → Option Char
  | '0' => some (Char.ofNat 0)
  | 'a' => some (Char.ofNat 7)
  | 'b' => some (Char.ofNat 8)
  | 't' => some '\t'
  | '\t' => some '\t'
  | 'n' => some '\n'
  | 'v' => some (Char.ofNat 11)
  | 'f' => some (Char.ofNat 12)
  | 'r' => some '\r'
  | 'e' => some (Char.ofNat 27)
  | ' ' => some ' '
  | '"' => some '"'
  | '\'' => some '\''
  | '\\' => some '\\'
  | 'N' => some (Char.ofNat 0x85)
  | '_' => some (Char.ofNat 0xa0)
  | 'L' => some (Char.ofNat 0x2028)
  | 'P' => some (Char.ofNat 0x2029)
  | _ => none

/-- The number of hexadecimal digits that follow an escape. -/
def escapeWidth? : Char → Option Nat
  | 'x' => some 2
  | 'u' => some 4
  | 'U' => some 8
  | _ => none

/-- The character of the escape whose letter and digits are at the front, and their number. -/
def takeEscape : List Char → Except Fault (Char × Nat)
  | [] => .error .malformed
  | c :: rest =>
    match escapedChar? c with
    | some d => .ok (d, 1)
    | none =>
      match escapeWidth? c with
      | none => .error .malformed
      | some width =>
        let digits := rest.take width
        if digits.length ≠ width then .error .malformed
        else
          match Text.hexNat? digits with
          | none => .error .malformed
          | some n =>
            if (0xd800 ≤ n ∧ n ≤ 0xdfff) ∨ 0x10ffff < n then .error .malformed
            else .ok (Char.ofNat n, width + 1)

/-- The characters of a quoted scalar up to a blank, a line break or the closing quote. The flag
tells whether they ended with an escaped line break. -/
def takeQuotedWord (single : Bool) :
    (fuel : Nat) → List Char → Cursor → Except Fault (List Char × Bool × Cursor)
  | 0, text, c => .ok (text, false, c)
  | fuel + 1, text, c =>
    match single, c.rest with
    | _, [] => .ok (text, false, c)
    | true, '\'' :: '\'' :: _ => takeQuotedWord single fuel (text ++ ['\'']) (c.skip 2)
    | true, '\'' :: _ => .ok (text, false, c)
    | false, '"' :: _ => .ok (text, false, c)
    | false, '\\' :: rest =>
      if atBreak rest then .ok (text, true, (c.skip 1).skipBreak)
      else
        match takeEscape rest with
        | .error e => .error e
        | .ok (d, n) => takeQuotedWord single fuel (text ++ [d]) (c.skip (n + 1))
    | _, d :: _ =>
      if isBlank d || isBreak d then .ok (text, false, c)
      else takeQuotedWord single fuel (text ++ [d]) (c.skip 1)

/-- The rest of a quoted scalar with the closing quote. -/
def takeQuoted (single : Bool) :
    (fuel : Nat) → List Char → Cursor → Except Fault (List Char × Cursor)
  | 0, _, _ => .error .malformed
  | fuel + 1, text, c =>
    if (c.column == 0 && atDocumentMark c.rest) || c.rest.isEmpty then .error .malformed
    else
      match takeQuotedWord single (c.rest.length + 1) [] c with
      | .error e => .error e
      | .ok (word, escapedBreak, c) =>
        let text := text ++ word
        if c.rest.head? = some (if single then '\'' else '"') then .ok (text, c.skip 1)
        else
          match takeGap none (c.rest.length + 1) { broken := escapedBreak } c with
          | .error e => .error e
          | .ok (gap, c) => takeQuoted single fuel (text ++ gap.folded) c

/-! ## Block scalars -/

/-- What becomes of the line breaks at the end of a block. -/
inductive Chomping where
  /-- They are dropped. -/
  | strip
  /-- The first is kept. -/
  | clip
  /-- All are kept. -/
  | keep
  deriving DecidableEq, Repr, Inhabited

/-- The sign that tells what becomes of the line breaks at the end. -/
def chomping? : Char → Option Chomping
  | '+' => some .keep
  | '-' => some .strip
  | _ => none

/-- The digit that tells the indentation. -/
def increment? (c : Char) : Option Nat :=
  if '0' ≤ c ∧ c ≤ '9' then some (c.toNat - 48) else none

/-- The signs after the indicator of a block: what becomes of the last line breaks, the
indentation (zero if it is not told) and the number of signs. -/
def blockHeader (rest : List Char) : Except Fault (Chomping × Nat × Nat) :=
  match rest with
  | [] => .ok (.clip, 0, 0)
  | a :: more =>
    match chomping? a with
    | some ch =>
      match more.head?.bind increment? with
      | some 0 => .error .malformed
      | some n => .ok (ch, n, 2)
      | none => .ok (ch, 0, 1)
    | none =>
      match increment? a with
      | some 0 => .error .malformed
      | some n =>
        match more.head?.bind chomping? with
        | some ch => .ok (ch, n, 2)
        | none => .ok (.clip, n, 1)
      | none => .ok (.clip, 0, 0)

/-- Passes the indentation and empty lines of a block. The line breaks are added to `breaks`, and
the deepest column is kept while the indentation `indent` is not known, that is, zero. -/
def takeBlockBreaks (indent : Nat) :
    (fuel : Nat) → (deepest : Nat) → List Char → Cursor →
      Except Fault (Nat × List Char × Cursor)
  | 0, deepest, breaks, c => .ok (deepest, breaks, c)
  | fuel + 1, deepest, breaks, c =>
    let spaces := (c.rest.takeWhile (· == ' ')).length
    let c := c.skip (if indent = 0 then spaces else min spaces (indent - c.column))
    let deepest := max deepest c.column
    if (indent = 0 ∨ c.column < indent) ∧ c.rest.head? = some '\t' then .error .malformed
    else if atBreak c.rest then
      let (text, c) := c.takeBreak
      takeBlockBreaks indent fuel deepest (breaks ++ text) c
    else .ok (deepest, breaks, c)

/-- The parts of a block scalar read so far. -/
structure Block where
  /-- The text. -/
  text : List Char := []
  /-- The line break at the end of the last line. -/
  lastBreak : List Char := []
  /-- The line breaks of the empty lines that followed. -/
  breaks : List Char := []
  /-- Whether the last line began with a blank. -/
  blankLine : Bool := false
  deriving Inhabited

/-- Reads the lines of a block with a known indentation. -/
def takeBlockLines (literal : Bool) (indent : Nat) :
    (fuel : Nat) → Block → Cursor → Except Fault (Block × Cursor)
  | 0, b, c => .ok (b, c)
  | fuel + 1, b, c =>
    if c.column ≠ indent ∨ c.rest.isEmpty then .ok (b, c)
    else
      let blank := atBlank c.rest
      let fold := !literal && !b.blankLine && !blank && b.lastBreak.head? == some '\n'
      let joint :=
        if fold then (if b.breaks.isEmpty then [' '] else []) else b.lastBreak
      let (line, c) := c.takeWhile (!isBreak ·)
      let (lastBreak, c) := c.takeBreak
      match takeBlockBreaks indent (c.rest.length + 1) 0 [] c with
      | .error e => .error e
      | .ok (_, breaks, c) =>
        takeBlockLines literal indent fuel
          ⟨b.text ++ joint ++ b.breaks ++ line, lastBreak, breaks, blank⟩ c

/-- Reads a block scalar from its indicator on, inside of a collection that is indented by
`outer`. -/
def takeBlock (literal : Bool) (outer : Int) (c : Cursor) :
    Except Fault (List Char × Cursor) := do
  let c := c.skip 1
  let (chomping, increment, signs) ← blockHeader c.rest
  let c := ((c.skip signs).skipWhile isBlank).skipComment
  if !atBreakOrEnd c.rest then throw .malformed
  let c := c.skipBreak
  let told := if increment = 0 then 0 else (if 0 ≤ outer then outer.toNat else 0) + increment
  let (deepest, breaks, c) ← takeBlockBreaks told (c.rest.length + 1) 0 [] c
  let indent := if told = 0 then max (max deepest (outer + 1).toNat) 1 else told
  let (b, c) ← takeBlockLines literal indent (c.rest.length + 1) { breaks } c
  let tail :=
    match chomping with
    | .strip => []
    | .clip => b.lastBreak
    | .keep => b.lastBreak ++ b.breaks
  return (b.text ++ tail, c)

end LeakCheck.Yaml
