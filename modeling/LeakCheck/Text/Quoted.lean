import LeakCheck.Text.Category

/-!
# Quoted text

`quote` writes a text between double quotes with escapes for everything that is not printable, and
`isQuotation` recognises the texts that read as one quoted text.
-/

namespace LeakCheck.Text

/-- The hexadecimal digits of `n`, in lower case and without leading zeros. -/
def hexDigits (n : Nat) : List Char := Nat.toDigits 16 n

/-- The hexadecimal digits of `n`, padded with zeros to `width`. -/
def hexPadded (width n : Nat) : List Char :=
  let digits := hexDigits n
  List.replicate (width - digits.length) '0' ++ digits

/-- How a character stands in quoted text. -/
def quoteChar (c : Char) : List Char :=
  match c with
  | '"' => ['\\', '"']
  | '\\' => ['\\', '\\']
  | '\n' => ['\\', 'n']
  | '\r' => ['\\', 'r']
  | '\t' => ['\\', 't']
  | c =>
    if c.toNat = 7 then ['\\', 'a']
    else if c.toNat = 8 then ['\\', 'b']
    else if c.toNat = 12 then ['\\', 'f']
    else if c.toNat = 11 then ['\\', 'v']
    else if isPrintable c then [c]
    else if c.toNat < 0x80 then ['\\', 'x'] ++ hexPadded 2 c.toNat
    else if c.toNat < 0x10000 then ['\\', 'u'] ++ hexPadded 4 c.toNat
    else ['\\', 'U'] ++ hexPadded 8 c.toNat

/-- A text between double quotes. -/
def quote (s : String) : String :=
  String.ofList (['"'] ++ s.toList.flatMap quoteChar ++ ['"'])

/-- Whether a text can stand between back quotes: no back quote, no byte order mark and no control
character but the tab. -/
def canBackquote (s : String) : Bool :=
  s.toList.all fun c =>
    c ≠ '\x60' && c.toNat ≠ 0xfeff && c.toNat ≠ 0x7f && (0x20 ≤ c.toNat || c = '\t')

/-- Whether a number is a code point that stands for a character. -/
def isScalar (n : Nat) : Bool := n < 0xd800 || (0xdfff < n && n < 0x110000)

/-- Whether the text after an opening double quote is a body with valid escapes and then the
closing double quote, with nothing after it. -/
def isQuotedBody : List Char → Bool
  | [] => false
  | '"' :: rest => rest.isEmpty
  | '\n' :: _ => false
  | '\\' :: c :: rest =>
    if c ∈ ['a', 'b', 'f', 'n', 'r', 't', 'v', '\\', '"'] then isQuotedBody rest
    else if c = 'x' then
      match rest with
      | a :: b :: rest => (hexNat? [a, b]).isSome && isQuotedBody rest
      | _ => false
    else if c = 'u' then
      match rest with
      | a :: b :: c :: d :: rest =>
        ((hexNat? [a, b, c, d]).any isScalar) && isQuotedBody rest
      | _ => false
    else if c = 'U' then
      match rest with
      | a :: b :: c :: d :: e :: f :: g :: h :: rest =>
        ((hexNat? [a, b, c, d, e, f, g, h]).any isScalar) && isQuotedBody rest
      | _ => false
    else if '0' ≤ c ∧ c ≤ '3' then
      match rest with
      | a :: b :: rest => '0' ≤ a && a ≤ '7' && '0' ≤ b && b ≤ '7' && isQuotedBody rest
      | _ => false
    else false
  | _ :: rest => isQuotedBody rest

/-- Whether a text is one quoted text. -/
def isQuotation (s : String) : Bool :=
  match s.toList with
  | '"' :: rest => isQuotedBody rest
  | _ => false

end LeakCheck.Text
