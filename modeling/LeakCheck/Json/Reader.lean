import LeakCheck.Json.Basic
import LeakCheck.Text.Category

/-!
# Reading JSON

`Json.parse?` reads a JSON text, with white space around its values. A half of a surrogate pair
that stands alone gives the replacement character.
-/

namespace LeakCheck.Json

/-- White space between the parts of a JSON text. -/
def isSpace (c : Char) : Bool := c == ' ' || c == '\t' || c == '\n' || c == '\r'

/-- The text without white space at the front. -/
def skipSpace (cs : List Char) : List Char := cs.dropWhile isSpace

/-- The code unit of four hexadecimal digits. -/
def unit? : List Char → Option (Nat × List Char)
  | a :: b :: c :: d :: rest => (Text.hexNat? [a, b, c, d]).map (·, rest)
  | _ => none

/-- Whether a code unit is the first half of a surrogate pair. -/
def isHighSurrogate (n : Nat) : Bool := 0xd800 ≤ n && n < 0xdc00

/-- Whether a code unit is the second half of a surrogate pair. -/
def isLowSurrogate (n : Nat) : Bool := 0xdc00 ≤ n && n < 0xe000

/-- The replacement character. -/
def replacement : Char := Char.ofNat 0xfffd

/-- The character of a code unit at the front of `rest`, together with the second half of its pair
if that follows. -/
def unitChar (n : Nat) (rest : List Char) : Char × List Char :=
  if isHighSurrogate n then
    match rest with
    | '\\' :: 'u' :: more =>
      match unit? more with
      | some (m, more) =>
        if isLowSurrogate m then
          (Char.ofNat (0x10000 + (n - 0xd800) * 0x400 + (m - 0xdc00)), more)
        else (replacement, rest)
      | none => (replacement, rest)
    | _ => (replacement, rest)
  else if isLowSurrogate n then (replacement, rest)
  else (Char.ofNat n, rest)

/-- The rest of a string up to the quote that closes it. -/
def stringBody : (fuel : Nat) → List Char → List Char → Option (String × List Char)
  | 0, _, _ => none
  | fuel + 1, acc, text =>
    match text with
    | [] => none
    | '"' :: rest => some (String.ofList acc.reverse, rest)
    | '\\' :: 'u' :: rest =>
      match unit? rest with
      | some (n, rest) =>
        let (c, rest) := unitChar n rest
        stringBody fuel (c :: acc) rest
      | none => none
    | '\\' :: c :: rest =>
      match c with
      | '"' => stringBody fuel ('"' :: acc) rest
      | '\\' => stringBody fuel ('\\' :: acc) rest
      | '/' => stringBody fuel ('/' :: acc) rest
      | 'b' => stringBody fuel (Char.ofNat 8 :: acc) rest
      | 'f' => stringBody fuel (Char.ofNat 12 :: acc) rest
      | 'n' => stringBody fuel ('\n' :: acc) rest
      | 'r' => stringBody fuel ('\r' :: acc) rest
      | 't' => stringBody fuel ('\t' :: acc) rest
      | _ => none
    | c :: rest => if c.toNat < 0x20 then none else stringBody fuel (c :: acc) rest

/-- The digits at the front, of which there must be one. -/
def digits? (cs : List Char) : Option (List Char × List Char) :=
  let ds := cs.takeWhile Char.isDigit
  if ds.isEmpty then none else some (ds, cs.dropWhile Char.isDigit)

/-- The fraction at the front, if there is one. -/
def fraction? : List Char → Option (List Char × List Char)
  | '.' :: rest => (digits? rest).map fun (ds, rest) => ('.' :: ds, rest)
  | rest => some ([], rest)

/-- The exponent at the front, if there is one. -/
def exponent? : List Char → Option (List Char × List Char)
  | e :: rest =>
    if e = 'e' ∨ e = 'E' then
      match rest with
      | '+' :: rest => (digits? rest).map fun (ds, rest) => (e :: '+' :: ds, rest)
      | '-' :: rest => (digits? rest).map fun (ds, rest) => (e :: '-' :: ds, rest)
      | rest => (digits? rest).map fun (ds, rest) => (e :: ds, rest)
    else some ([], e :: rest)
  | [] => some ([], [])

/-- The whole part at the front: zero alone, or digits that do not begin with it. -/
def whole? : List Char → Option (List Char × List Char)
  | '0' :: rest => some (['0'], rest)
  | rest => digits? rest

/-- The number at the front. -/
def number? (cs : List Char) : Option (String × List Char) := do
  let (sign, cs) := match cs with
    | '-' :: rest => (['-'], rest)
    | rest => ([], rest)
  let (whole, cs) ← whole? cs
  let (fraction, cs) ← fraction? cs
  let (exponent, cs) ← exponent? cs
  return (String.ofList (sign ++ whole ++ fraction ++ exponent), cs)

mutual

/-- The value at the front. The length of the text bounds the depth. -/
def value? : (fuel : Nat) → List Char → Option (Json × List Char)
  | 0, _ => none
  | fuel + 1, cs =>
    match skipSpace cs with
    | 'n' :: 'u' :: 'l' :: 'l' :: rest => some (.null, rest)
    | 't' :: 'r' :: 'u' :: 'e' :: rest => some (.bool true, rest)
    | 'f' :: 'a' :: 'l' :: 's' :: 'e' :: rest => some (.bool false, rest)
    | '"' :: rest => (stringBody (fuel + 1) [] rest).map fun (s, rest) => (.string s, rest)
    | '[' :: rest =>
      match skipSpace rest with
      | ']' :: rest => some (.array [], rest)
      | rest => items? fuel [] rest
    | '\x7b' :: rest =>
      match skipSpace rest with
      | '\x7d' :: rest => some (.object [], rest)
      | rest => members? fuel [] rest
    | rest => (number? rest).map fun (n, rest) => (.number n, rest)

/-- The items of an array up to the bracket that closes it. -/
def items? : (fuel : Nat) → List Json → List Char → Option (Json × List Char)
  | 0, _, _ => none
  | fuel + 1, acc, cs =>
    match value? fuel cs with
    | none => none
    | some (v, rest) =>
      match skipSpace rest with
      | ',' :: rest => items? fuel (v :: acc) rest
      | ']' :: rest => some (.array (v :: acc).reverse, rest)
      | _ => none

/-- The members of an object up to the brace that closes it. -/
def members? : (fuel : Nat) → List (String × Json) → List Char → Option (Json × List Char)
  | 0, _, _ => none
  | fuel + 1, acc, cs =>
    match skipSpace cs with
    | '"' :: rest =>
      match stringBody (fuel + 1) [] rest with
      | none => none
      | some (key, rest) =>
        match skipSpace rest with
        | ':' :: rest =>
          match value? fuel rest with
          | none => none
          | some (v, rest) =>
            match skipSpace rest with
            | ',' :: rest => members? fuel ((key, v) :: acc) rest
            | '\x7d' :: rest => some (.object ((key, v) :: acc).reverse, rest)
            | _ => none
        | _ => none
    | _ => none

end

/-- Reads a JSON text. -/
def parse? (cs : List Char) : Option Json :=
  match value? (cs.length + 1) cs with
  | some (v, rest) => if (skipSpace rest).isEmpty then some v else none
  | none => none

end LeakCheck.Json
