import LeakCheck.Yaml.ScalarText
import LeakCheck.Yaml.Tag

/-!
# Scanning tokens

`tokens` turns a text into tokens. A mapping key needs no sign of its own: whether a token began a
key is known only when a `:` follows it in its line, and then the sign is put in before it. So
tokens wait in a queue while the first of them may still turn out to begin a key.
-/

namespace LeakCheck.Yaml

/-- A place where a key may have begun. -/
structure PossibleKey where
  /-- Whether nothing but a key may stand there. -/
  required : Bool
  /-- The number of tokens before it. -/
  number : Nat
  /-- The number of characters before it. -/
  index : Nat
  /-- Its line. -/
  line : Nat
  /-- Its column. -/
  column : Nat
  deriving Repr, Inhabited

/-- The state of a scan. -/
structure Scanner where
  /-- The place in the text. -/
  cursor : Cursor
  /-- The column of the innermost block, below zero outside of blocks. -/
  indent : Int := -1
  /-- The columns of the blocks around it. -/
  outerIndents : List Int := []
  /-- Whether a key may begin here. -/
  keyAllowed : Bool := true
  /-- Where a key may have begun. -/
  key : Option PossibleKey := none
  /-- Where keys may have begun outside of the brackets that are open. -/
  outerKeys : List (Option PossibleKey) := []
  /-- The tokens that wait. -/
  queue : List Token := [.streamStart]
  /-- The number of tokens that were given out. -/
  given : Nat := 0
  deriving Repr, Inhabited

namespace Scanner

/-- Whether brackets are open. -/
def inFlow (s : Scanner) : Bool := !s.outerKeys.isEmpty

/-- Puts a token at the end of the queue. -/
def push (s : Scanner) (t : Token) : Scanner := { s with queue := s.queue ++ [t] }

/-- Puts a token before the token that is the `number`-th of all. -/
def insertAt (s : Scanner) (number : Nat) (t : Token) : Scanner :=
  { s with queue := s.queue.take (number - s.given) ++ t :: s.queue.drop (number - s.given) }

/-- The number of all tokens so far. -/
def count (s : Scanner) : Nat := s.given + s.queue.length

/-! ## Blocks -/

/-- Closes the blocks that are indented by more than `column`. -/
def closeBlocks (s : Scanner) (column : Int) : Scanner :=
  if s.inFlow then s else go s.outerIndents s
where
  /-- Closes blocks while there are blocks around them. -/
  go : List Int → Scanner → Scanner
    | outer :: rest, s =>
      if column < s.indent then
        go rest { s.push .blockEnd with indent := outer, outerIndents := rest }
      else s
    | [], s => s

/-- Opens a block at a column, unless the innermost one is at least as deep. The token that tells
of it is the `number`-th of all. -/
def openBlock (s : Scanner) (column : Nat) (number : Nat) (t : Token) : Except Fault Scanner :=
  if s.inFlow || (column : Int) ≤ s.indent then .ok s
  else if 10000 ≤ s.outerIndents.length then .error .malformed
  else
    .ok ({ s with outerIndents := s.indent :: s.outerIndents, indent := column }.insertAt number t)

/-! ## Keys -/

/-- Whether a `:` here would still make a key of what began at `k`: it is in the same line and not
too far away. -/
def isCurrent (s : Scanner) (k : PossibleKey) : Bool :=
  k.line == s.cursor.line && s.cursor.index ≤ k.index + 1024

/-- Whether a place is one where a key began, given that a `:` follows here. -/
def validKey (s : Scanner) (k : Option PossibleKey) : Except Fault (Option PossibleKey) :=
  match k with
  | none => .ok none
  | some k =>
    if s.isCurrent k then .ok (some k) else if k.required then .error .malformed else .ok none

/-- Forgets the place where a key may have begun. -/
def dropKey (s : Scanner) : Except Fault Scanner :=
  if s.key.any (·.required) then .error .malformed else .ok { s with key := none }

/-- Remembers that a key may begin here. -/
def saveKey (s : Scanner) : Except Fault Scanner :=
  if s.keyAllowed then
    match s.dropKey with
    | .error e => .error e
    | .ok s =>
      let required := !s.inFlow && s.indent == s.cursor.column
      .ok { s with key := some ⟨required, s.count, s.cursor.index, s.cursor.line, s.cursor.column⟩ }
  else .ok s

/-- Whether the first token that waits may still turn out to begin a key. -/
def headMayBeKey (s : Scanner) : Except Fault Bool :=
  match (s.key :: s.outerKeys).find? (·.any (·.number == s.given)) with
  | none => .ok false
  | some k => (s.validKey k).map (·.isSome)

/-! ## The tokens one by one -/

/-- Passes a number of characters and gives a token for them. -/
def take (s : Scanner) (n : Nat) (t : Token) : Scanner :=
  { s with cursor := s.cursor.skip n }.push t

/-- The end of the text, which is in a line of its own. -/
def takeEnd (s : Scanner) : Except Fault Scanner := do
  let s ← (s.closeBlocks (-1)).dropKey
  let cursor := { s.cursor with line := s.cursor.line + 1, column := 0 }
  return { s with keyAllowed := false, cursor }.push .streamEnd

/-- A directive. -/
def takeDirectiveLine (s : Scanner) : Except Fault Scanner := do
  let s ← (s.closeBlocks (-1)).dropKey
  let (t, c) ← takeDirective s.cursor
  return { s with keyAllowed := false, cursor := c }.push t

/-- A mark that divides documents. -/
def takeDocumentMark (s : Scanner) (t : Token) : Except Fault Scanner := do
  let s ← (s.closeBlocks (-1)).dropKey
  return { s with keyAllowed := false }.take 3 t

/-- A bracket that opens. -/
def takeOpening (s : Scanner) (t : Token) : Except Fault Scanner := do
  let s ← s.saveKey
  if 10000 ≤ s.outerKeys.length then throw .malformed
  return { s with keyAllowed := true, key := none, outerKeys := s.key :: s.outerKeys }.take 1 t

/-- A bracket that closes. -/
def takeClosing (s : Scanner) (t : Token) : Except Fault Scanner := do
  let s ← s.dropKey
  let s :=
    match s.outerKeys with
    | k :: rest => { s with key := k, outerKeys := rest }
    | [] => s
  return { s with keyAllowed := false }.take 1 t

/-- A comma between brackets. -/
def takeComma (s : Scanner) : Except Fault Scanner := do
  let s ← s.dropKey
  return { s with keyAllowed := true }.take 1 .flowEntry

/-- A dash before an item. -/
def takeDash (s : Scanner) : Except Fault Scanner := do
  if !s.inFlow && !s.keyAllowed then throw .malformed
  let s ← s.openBlock s.cursor.column s.count .blockSequenceStart
  let s ← s.dropKey
  return { s with keyAllowed := true }.take 1 .blockEntry

/-- The sign of a key. -/
def takeKeySign (s : Scanner) : Except Fault Scanner := do
  if !s.inFlow && !s.keyAllowed then throw .malformed
  let s ← s.openBlock s.cursor.column s.count .blockMappingStart
  let s ← s.dropKey
  return { s with keyAllowed := !s.inFlow }.take 1 .key

/-- The sign of a value. If a key was possible, it is one now. -/
def takeValueSign (s : Scanner) : Except Fault Scanner := do
  match ← s.validKey s.key with
  | some k =>
    let s ← (s.insertAt k.number .key).openBlock k.column k.number .blockMappingStart
    return { s with key := none, keyAllowed := false }.take 1 .value
  | none =>
    if !s.inFlow && !s.keyAllowed then throw .malformed
    let s ← s.openBlock s.cursor.column s.count .blockMappingStart
    return { s with keyAllowed := !s.inFlow }.take 1 .value

/-- An anchor or an alias. -/
def takeReference (s : Scanner) (t : String → Token) : Except Fault Scanner := do
  let s ← s.saveKey
  let (name, c) ← takeName s.cursor
  return { s with keyAllowed := false, cursor := c }.push (t name)

/-- A tag. -/
def takeTagToken (s : Scanner) : Except Fault Scanner := do
  let s ← s.saveKey
  let (t, c) ← takeTag s.cursor
  return { s with keyAllowed := false, cursor := c }.push t

/-- A scalar written as a block. -/
def takeBlockScalar (s : Scanner) (literal : Bool) : Except Fault Scanner := do
  let s ← s.dropKey
  let (text, c) ← takeBlock literal s.indent s.cursor
  return { s with keyAllowed := true, cursor := c }.push (.scalar (String.ofList text) false)

/-- A scalar between quotes. -/
def takeQuotedScalar (s : Scanner) (single : Bool) : Except Fault Scanner := do
  let s ← s.saveKey
  let c := s.cursor.skip 1
  let (text, c) ← takeQuoted single (c.rest.length + 1) [] c
  return { s with keyAllowed := false, cursor := c }.push (.scalar (String.ofList text) false)

/-- A scalar without quotes. -/
def takePlainScalar (s : Scanner) : Except Fault Scanner := do
  let s ← s.saveKey
  let fuel := s.cursor.rest.length + 1
  let (text, broken, c) ← takePlain s.inFlow (s.indent + 1).toNat fuel [] {} s.cursor
  return { s with keyAllowed := broken, cursor := c }.push (.scalar (String.ofList text) true)

/-- Whether a scalar without quotes may begin with a character, whatever follows it. -/
def beginsPlain (c : Char) : Bool :=
  !(isBlank c || isBreak c || c ∈ ['-', '?', ':', ',', '[', ']', '\x7b', '\x7d', '#', '&', '*', '!',
    '|', '>', '\'', '"', '%', '@', '\x60'])

/-- Passes white space, comments and line breaks before a token. Tabs do not count as white space
where a key may begin. -/
def skipSpace : (fuel : Nat) → Scanner → Scanner
  | 0, s => s
  | fuel + 1, s =>
    let c := s.cursor
    let c := if c.column = 0 ∧ c.rest.head? = some (Char.ofNat 0xfeff) then c.skip 1 else c
    let c := c.skipWhile fun d => d == ' ' || ((s.inFlow || !s.keyAllowed) && d == '\t')
    let c := c.skipComment
    if atBreak c.rest then
      skipSpace fuel { s with cursor := c.skipBreak, keyAllowed := s.keyAllowed || !s.inFlow }
    else { s with cursor := c }

/-- Whether a line begins here with a mark of three equal characters. -/
def atMark (s : Scanner) (c : Char) : Bool :=
  s.cursor.column == 0 && atDocumentMark s.cursor.rest && s.cursor.rest.head? == some c

/-- Reads one further token of the text into the queue, with what it implies. -/
def fetch (s : Scanner) : Except Fault Scanner :=
  let s := skipSpace (s.cursor.rest.length + 1) s
  let s := s.closeBlocks s.cursor.column
  match s.cursor.rest with
  | [] => s.takeEnd
  | c :: rest =>
    if s.cursor.column = 0 ∧ c = '%' then s.takeDirectiveLine
    else if s.atMark '-' then s.takeDocumentMark .documentStart
    else if s.atMark '.' then s.takeDocumentMark .documentEnd
    else if c = '[' then s.takeOpening .flowSequenceStart
    else if c = '\x7b' then s.takeOpening .flowMappingStart
    else if c = ']' then s.takeClosing .flowSequenceEnd
    else if c = '\x7d' then s.takeClosing .flowMappingEnd
    else if c = ',' then s.takeComma
    else if c = '-' ∧ atBlankOrEnd rest then s.takeDash
    else if c = '?' ∧ (s.inFlow || atBlankOrEnd rest) then s.takeKeySign
    else if c = ':' ∧ (s.inFlow || atBlankOrEnd rest) then s.takeValueSign
    else if c = '*' then s.takeReference .alias
    else if c = '&' then s.takeReference .anchor
    else if c = '!' then s.takeTagToken
    else if c = '|' ∧ !s.inFlow then s.takeBlockScalar true
    else if c = '>' ∧ !s.inFlow then s.takeBlockScalar false
    else if c = '\'' then s.takeQuotedScalar true
    else if c = '"' then s.takeQuotedScalar false
    else if beginsPlain c || c = '-' || c = '?' || c = ':' then s.takePlainScalar
    else .error .malformed

/-- Reads tokens until the first that waits can be given out. -/
def fetchMore : (fuel : Nat) → Scanner → Except Fault Scanner
  | 0, _ => .error .malformed
  | fuel + 1, s =>
    if s.queue.isEmpty then
      match s.fetch with
      | .error e => .error e
      | .ok s => fetchMore fuel s
    else
      match s.headMayBeKey with
      | .error e => .error e
      | .ok false => .ok s
      | .ok true =>
        match s.fetch with
        | .error e => .error e
        | .ok s => fetchMore fuel s

/-- The tokens that can be given out. They end before the first malformed place, and otherwise with
the end of the text. -/
def run : (fuel : Nat) → Scanner → List Token
  | 0, _ => []
  | fuel + 1, s =>
    match fetchMore (s.cursor.rest.length + 3) s with
    | .error _ => []
    | .ok s =>
      match s.queue with
      | [] => []
      | .streamEnd :: _ => [.streamEnd]
      | t :: queue => t :: run fuel { s with queue := queue, given := s.given + 1 }

end Scanner

/-- The tokens of a text. If the text is malformed, they are those before that shows, and the end of
the text is not among them. -/
def tokens (text : List Char) : List Token :=
  Scanner.run (4 * text.length + 16) { cursor := { rest := text } }

end LeakCheck.Yaml
