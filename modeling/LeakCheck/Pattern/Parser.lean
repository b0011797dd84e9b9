import LeakCheck.Pattern.Basic
import LeakCheck.Text.Decimal

/-!
# Reading regular expressions

`Regex.parse` reads the written form from left to right. It keeps the groups that are open, each
with the choices and the parts read so far, and the options in force.
-/

namespace LeakCheck.Pattern

/-- The options that a pattern can switch. -/
structure Options where
  /-- Case is disregarded. -/
  fold : Bool := false
  /-- The anchors of lines hold at the ends of all lines. -/
  multiline : Bool := false
  /-- The dot matches the end of a line. -/
  dotAll : Bool := false
  /-- Repetitions prefer fewer matches, which makes no difference to what is matched. -/
  lazy : Bool := false
  deriving DecidableEq, Repr, Inhabited

/-- A group that is open. -/
structure OpenGroup where
  /-- The options to be restored when it closes. -/
  options : Options
  /-- Whether it stays a group of its own. -/
  captures : Bool
  /-- The choices read so far, the last one first. -/
  choices : List Regex := []
  /-- The parts of the choice being read, the last one first. -/
  parts : List Regex := []
  deriving Inhabited

/-- What has been read so far. -/
structure ParseState where
  /-- The options in force. -/
  options : Options
  /-- The innermost group that is open, or the whole expression. -/
  current : OpenGroup
  /-- The groups around it, from the inside out. -/
  outer : List OpenGroup
  /-- The text from the last repetition on, if that was read just now. -/
  lastRepeat : Option (List Char) := none
  deriving Inhabited

/-- The largest number of instructions. -/
def maxSize : Nat := 3355443

/-- The deepest nesting. -/
def maxHeight : Nat := 1000

/-- The largest number in a repetition, and the largest product of nested ones. -/
def maxRepeat : Nat := 1000

/-- The beginning of `all` that ends where `rest` begins. -/
def upTo (all rest : List Char) : String := String.ofList (all.take (all.length - rest.length))

/-- One expression for several that follow each other; sequences inside are spliced in. -/
def sequence (parts : List Regex) : Regex :=
  match parts.flatMap (fun | .concat ps => ps | r => [r]) with
  | [] => .empty
  | [r] => r
  | rs => .concat rs

/-- One expression for several choices. -/
def choose : List Regex → Regex
  | [r] => r
  | rs => .alternate rs

/-- The expression that a group has come to. -/
def OpenGroup.close (g : OpenGroup) : Regex :=
  choose (g.choices.reverse ++ [sequence g.parts.reverse])

/-- Adds a part to the choice being read. -/
def ParseState.push (s : ParseState) (r : Regex) : ParseState :=
  { s with current := { s.current with parts := r :: s.current.parts }, lastRepeat := none }

/-- Adds a character to the choice being read. -/
def ParseState.literal (s : ParseState) (code : Nat) : ParseState :=
  s.push (.char (if s.options.fold then .folded code else .exactly code))

/-- Refuses an expression that is too large or nested too deeply. -/
def checkLimits (whole : List Char) (r : Regex) : Except Fault Unit :=
  if maxSize < r.size then .error (.tooLarge (String.ofList whole))
  else if maxHeight < r.height then .error (.nestsTooDeeply (String.ofList whole))
  else .ok ()

/-! ## Escapes -/

/-- The digits of a code point in braces, up to the closing one. -/
def bracedHex (escape : List Char) (seen : Bool) (n : Nat) :
    List Char → Except Fault (Nat × List Char)
  | [] => .error (.invalidEscape (upTo escape []))
  | '\x7d' :: rest =>
    if seen then .ok (n, rest) else .error (.invalidEscape (upTo escape rest))
  | c :: rest =>
    match Text.hexValue? c with
    | none => .error (.invalidEscape (upTo escape rest))
    | some v =>
      if 0x10ffff < 16 * n + v then .error (.invalidEscape (upTo escape rest))
      else bracedHex escape true (16 * n + v) rest

/-- Whether a character is an octal digit. -/
def isOctal (c : Char) : Bool := '0' ≤ c && c ≤ '7'

/-- The code point that the escape at the front stands for. -/
def parseEscape (escape : List Char) : Except Fault (Nat × List Char) :=
  match escape.drop 1 with
  | [] => .error .trailingBackslash
  | c :: rest =>
    let invalid (rest : List Char) : Except Fault (Nat × List Char) :=
      .error (.invalidEscape (upTo escape rest))
    if isOctal c then
      if c ≠ '0' ∧ !(rest.head?.any isOctal) then invalid rest
      else
        let more := (rest.take 2).takeWhile isOctal
        .ok (more.foldl (fun n d => 8 * n + (d.toNat - 48)) (c.toNat - 48),
          rest.drop more.length)
    else if c = 'x' then
      match rest with
      | [] => invalid []
      | '\x7b' :: rest => bracedHex escape false 0 rest
      | [_] => invalid []
      | a :: b :: rest =>
        match Text.hexNat? [a, b] with
        | some n => .ok (n, rest)
        | none => invalid rest
    else
      match c with
      | 'a' => .ok (7, rest)
      | 'f' => .ok (12, rest)
      | 'n' => .ok (10, rest)
      | 'r' => .ok (13, rest)
      | 't' => .ok (9, rest)
      | 'v' => .ok (11, rest)
      | c =>
        if c.toNat < 0x80 ∧ !c.isAlphanum then .ok (c.toNat, rest) else invalid rest

/-- The item for the property named at the front, if an escape for one stands there. -/
def parseProperty (fold : Bool) (escape : List Char) :
    Except Fault (Option (ClassItem × List Char)) :=
  match escape with
  | '\\' :: p :: rest =>
    if p ≠ 'p' ∧ p ≠ 'P' then .ok none
    else
      let finish (name : List Char) (rest : List Char) :
          Except Fault (Option (ClassItem × List Char)) :=
        let (negated, name) :=
          match name with
          | '^' :: name => (p == 'p', name)
          | name => (p == 'P', name)
        match property? (String.ofList name) with
        | none => .error (.invalidClassRange (upTo escape rest))
        | some (set, outside) => .ok (some (⟨set, negated != outside, fold⟩, rest))
      match rest with
      | [] => finish [] []
      | '\x7b' :: inside =>
        if '\x7d' ∈ inside then
          finish (inside.takeWhile (· ≠ '\x7d')) ((inside.dropWhile (· ≠ '\x7d')).drop 1)
        else .error (.invalidClassRange (String.ofList escape))
      | c :: rest => finish [c] rest
  | _ => .ok none

/-- The item for the class that a backslash and a letter at the front stand for. -/
def parseEscapedClass (fold : Bool) : List Char → Option (ClassItem × List Char)
  | '\\' :: c :: rest => (escapedClass? c).map fun g => (⟨.ranges g.1, g.2, fold⟩, rest)
  | _ => none

/-! ## Classes -/

/-- The place of the first `:]` in a text. -/
def findClassEnd? : List Char → Option Nat
  | ':' :: ']' :: _ => some 0
  | _ :: rest => (findClassEnd? rest).map (· + 1)
  | [] => none

/-- The item for the class with a name between colons at the front, if one stands there. -/
def parseNamedClass (fold : Bool) (text : List Char) :
    Except Fault (Option (ClassItem × List Char)) :=
  match text with
  | '[' :: ':' :: inside =>
    match findClassEnd? inside with
    | none => .ok none
    | some n =>
      let (negated, name) :=
        match inside.take n with
        | '^' :: name => (true, name)
        | name => (false, name)
      match posixClass? (String.ofList name) with
      | none => .error (.invalidClassRange (upTo text (inside.drop (n + 2))))
      | some rs => .ok (some (⟨.ranges rs, negated, fold⟩, inside.drop (n + 2)))
  | _ => .ok none

/-- One character of a class. -/
def parseClassChar (cls : List Char) : List Char → Except Fault (Nat × List Char)
  | [] => .error (.missingBracket (String.ofList cls))
  | '\\' :: rest => parseEscape ('\\' :: rest)
  | c :: rest => .ok (c.toNat, rest)

/-- One item of a class: a named class, a property, an escaped class, a character or a range. -/
def parseClassItem (fold : Bool) (cls text : List Char) :
    Except Fault (ClassItem × List Char) := do
  if let some r ← parseNamedClass fold text then return r
  if let some r ← parseProperty fold text then return r
  if let some r := parseEscapedClass fold text then return r
  let (lo, rest) ← parseClassChar cls text
  match rest with
  | '-' :: c :: after =>
    if c = ']' then return (⟨.range lo lo, false, fold⟩, rest)
    else
      let (hi, rest) ← parseClassChar cls (c :: after)
      if hi < lo then throw (.invalidClassRange (upTo text rest))
      return (⟨.range lo hi, false, fold⟩, rest)
  | _ => return (⟨.range lo lo, false, fold⟩, rest)

/-- The items of a class up to the bracket that closes it. A closing bracket that comes first
stands for itself. -/
def parseClassItems (fold : Bool) (cls : List Char) :
    (fuel : Nat) → (first : Bool) → List Char → List ClassItem →
      Except Fault (List ClassItem × List Char)
  | 0, _, _, _ => .error (.missingBracket (String.ofList cls))
  | fuel + 1, first, text, items =>
    match first, text with
    | false, ']' :: rest => .ok (items.reverse, rest)
    | _, text =>
      match parseClassItem fold cls text with
      | .error e => .error e
      | .ok (item, rest) => parseClassItems fold cls fuel false rest (item :: items)

/-- The class at the front. -/
def parseClass (fold : Bool) (cls : List Char) : Except Fault (CharClass × List Char) :=
  let inside := cls.drop 1
  let (negated, inside) :=
    match inside with
    | '^' :: inside => (true, inside)
    | inside => (false, inside)
  (parseClassItems fold cls (inside.length + 2) true inside []).map fun (items, rest) =>
    (⟨items, negated⟩, rest)

/-! ## Repetitions -/

/-- The number at the front, without leading zeros; `none` inside for one of more than eight
digits. -/
def parseCount (text : List Char) : Option (Option Nat × List Char) :=
  let digits := text.takeWhile Char.isDigit
  let rest := text.dropWhile Char.isDigit
  match digits with
  | [] => none
  | '0' :: _ :: _ => none
  | _ => some ((Text.natOfDigits? digits).filter (· < 1000000000), rest)

/-- A repetition count in braces. -/
structure RepeatCount where
  /-- The least number, unless it is too large. -/
  least : Option Nat
  /-- The largest number: `none` if there is none, `some none` if it is too large. -/
  most : Option (Option Nat)

/-- The repetition count in braces at the front, if one stands there. -/
def parseRepeat (text : List Char) : Option (RepeatCount × List Char) :=
  match text with
  | '\x7b' :: inside =>
    match parseCount inside with
    | some (least, '\x7d' :: rest) => some (⟨least, some least⟩, rest)
    | some (least, ',' :: '\x7d' :: rest) => some (⟨least, none⟩, rest)
    | some (least, ',' :: more) =>
      match parseCount more with
      | some (most, '\x7d' :: rest) => some (⟨least, some most⟩, rest)
      | _ => none
    | _ => none
  | _ => none

/-- Applies a repetition to the last part. The repetition stands at the front of `before`, and
`after` follows it. -/
def ParseState.repeatLast (s : ParseState) (whole before after : List Char) (op : Regex → Regex)
    (counted : Bool) : Except Fault (ParseState × List Char) := do
  let after :=
    match after with
    | '?' :: after => after
    | after => after
  if let some last := s.lastRepeat then throw (.nestedRepetition (upTo last after))
  match s.current.parts with
  | [] => throw (.missingOperand (upTo before after))
  | r :: parts =>
    let r := op r
    checkLimits whole r
    if counted ∧ !r.repeatsWithin maxRepeat then
      throw (.invalidRepeatCount (upTo before after))
    return ({ s with current := { s.current with parts := r :: parts }, lastRepeat := some before },
      after)

/-! ## Groups -/

/-- Opens a group. -/
def ParseState.openGroup (s : ParseState) (captures : Bool) (options : Options) : ParseState :=
  { s with
    options
    current := ⟨s.options, captures, [], []⟩
    outer := s.current :: s.outer
    lastRepeat := none }

/-- Ends a choice and begins the next. -/
def ParseState.nextChoice (s : ParseState) : ParseState :=
  let choice := sequence s.current.parts.reverse
  { s with
    current := { s.current with choices := choice :: s.current.choices, parts := [] }
    lastRepeat := none }

/-- Closes the innermost group. -/
def ParseState.closeGroup (s : ParseState) (whole : List Char) : Except Fault ParseState := do
  match s.outer with
  | [] => throw (.unexpectedParenthesis (String.ofList whole))
  | around :: outer =>
    let r := s.current.close
    let r := if s.current.captures then .group r else r
    checkLimits whole r
    return { s with
      options := s.current.options
      current := { around with parts := r :: around.parts }
      outer
      lastRepeat := none }

/-- Whether a name may be given to a group. -/
def isCaptureName (name : List Char) : Bool := !name.isEmpty && name.all isWordChar

/-- Switches one option. -/
def Options.switch (o : Options) (value : Bool) : Char → Option Options
  | 'i' => some { o with fold := value }
  | 'm' => some { o with multiline := value }
  | 's' => some { o with dotAll := value }
  | 'U' => some { o with lazy := value }
  | _ => none

/-- The options after a question mark, up to the colon or parenthesis that ends them. The flag
`value` tells whether they are switched on, and `seen` whether an option was read since it
changed. -/
def parseOptions (start : List Char) (s : ParseState) (value seen : Bool) (o : Options) :
    List Char → Except Fault (ParseState × List Char)
  | [] => .error (.invalidGroupSyntax (upTo start []))
  | c :: rest =>
    match o.switch value c with
    | some o => parseOptions start s value true o rest
    | none =>
      if c = '-' ∧ value then parseOptions start s false false o rest
      else if (c = ':' ∨ c = ')') ∧ (value ∨ seen) then
        if c = ':' then .ok (s.openGroup false o, rest)
        else .ok ({ s with options := o, lastRepeat := none }, rest)
      else .error (.invalidGroupSyntax (upTo start rest))

/-- The group, or the change of options, that begins with a parenthesis and a question mark. -/
def parseSpecialGroup (s : ParseState) (start : List Char) :
    Except Fault (ParseState × List Char) :=
  let named (name : List Char) : Except Fault (ParseState × List Char) :=
    if '>' ∈ start then
      let rest := (start.dropWhile (· ≠ '>')).drop 1
      if isCaptureName (name.takeWhile (· ≠ '>')) then .ok (s.openGroup true s.options, rest)
      else .error (.invalidNamedCapture (upTo start rest))
    else .error (.invalidNamedCapture (String.ofList start))
  match start with
  | _ :: _ :: 'P' :: '<' :: c :: rest => named (c :: rest)
  | _ :: _ :: '<' :: c :: rest => named (c :: rest)
  | _ => parseOptions start s true false s.options (start.drop 2)

/-! ## The whole expression -/

/-- The literal text up to `\E`, and what follows that. -/
def splitQuoted : List Char → List Char × List Char
  | '\\' :: 'E' :: rest => ([], rest)
  | c :: rest => let (q, r) := splitQuoted rest; (c :: q, r)
  | [] => ([], [])

/-- Reads what begins with a backslash. -/
def parseBackslash (s : ParseState) (text : List Char) : Except Fault (ParseState × List Char) := do
  match text with
  | '\\' :: 'A' :: rest => return (s.push (.anchor .textStart), rest)
  | '\\' :: 'b' :: rest => return (s.push (.anchor .wordBoundary), rest)
  | '\\' :: 'B' :: rest => return (s.push (.anchor .noWordBoundary), rest)
  | '\\' :: 'C' :: _ => throw (.invalidEscape "\\C")
  | '\\' :: 'Q' :: rest =>
    let (quoted, rest) := splitQuoted rest
    return (quoted.foldl (fun s c => s.literal c.toNat) { s with lastRepeat := none }, rest)
  | '\\' :: 'z' :: rest => return (s.push (.anchor .textEnd), rest)
  | _ =>
    if let some (item, rest) ← parseProperty s.options.fold text then
      return (s.push (.char (.oneOf ⟨[item], false⟩)), rest)
    if let some (item, rest) := parseEscapedClass s.options.fold text then
      return (s.push (.char (.oneOf ⟨[item], false⟩)), rest)
    let (code, rest) ← parseEscape text
    return (s.literal code, rest)

/-- Reads what stands at the front. -/
def parseStep (whole : List Char) (s : ParseState) (text : List Char) :
    Except Fault (ParseState × List Char) := do
  match text with
  | [] => return (s, [])
  | '(' :: '?' :: _ => parseSpecialGroup s text
  | '(' :: rest => return (s.openGroup true s.options, rest)
  | '|' :: rest => return (s.nextChoice, rest)
  | ')' :: rest => return (← s.closeGroup whole, rest)
  | '^' :: rest =>
    return (s.push (.anchor (if s.options.multiline then .lineStart else .textStart)), rest)
  | '$' :: rest =>
    return (s.push (.anchor (if s.options.multiline then .lineEnd else .textEnd)), rest)
  | '.' :: rest => return (s.push (.char (if s.options.dotAll then .any else .notNewline)), rest)
  | '[' :: _ =>
    let (cls, rest) ← parseClass s.options.fold text
    return (s.push (.char (.oneOf cls)), rest)
  | '*' :: rest => s.repeatLast whole text rest .star false
  | '+' :: rest => s.repeatLast whole text rest .plus false
  | '?' :: rest => s.repeatLast whole text rest .option false
  | '\x7b' :: rest =>
    match parseRepeat text with
    | none => return (s.literal 0x7b, rest)
    | some (count, after) =>
      let tooLarge : Except Fault (ParseState × List Char) :=
        throw (.invalidRepeatCount (upTo text after))
      match count.least, count.most with
      | some least, none =>
        if maxRepeat < least then tooLarge
        else s.repeatLast whole text after (.times · least none) (2 ≤ least)
      | some least, some (some most) =>
        if maxRepeat < least ∨ maxRepeat < most ∨ most < least then tooLarge
        else s.repeatLast whole text after (.times · least (some most)) (2 ≤ least ∨ 2 ≤ most)
      | _, _ => tooLarge
  | '\\' :: _ => parseBackslash s text
  | c :: rest => return (s.literal c.toNat, rest)

/-- Reads until nothing is left; every step shortens the text, so its length bounds the steps. -/
def parseSteps (whole : List Char) :
    (fuel : Nat) → ParseState → List Char → Except Fault ParseState
  | 0, s, _ => .ok s
  | _ + 1, s, [] => .ok s
  | fuel + 1, s, text =>
    match parseStep whole s text with
    | .error e => .error e
    | .ok (s, rest) => parseSteps whole fuel s rest

/-- Reads a regular expression. -/
def Regex.parse (text : List Char) : Except Fault Regex := do
  let start : ParseState := ⟨{}, ⟨{}, false, [], []⟩, [], none⟩
  let s ← parseSteps text (text.length + 1) start text
  let r := s.current.close
  if !s.outer.isEmpty then throw (.missingParenthesis (String.ofList text))
  checkLimits text r
  return r

end LeakCheck.Pattern
