import LeakCheck.Text.Category
import LeakCheck.Yaml.Token

/-!
# Characters of YAML text

The classes of characters that the grammar speaks of, and a cursor that keeps its place in a text.
-/

namespace LeakCheck.Yaml

/-- A place in a text. -/
structure Cursor where
  /-- What lies ahead. -/
  rest : List Char
  /-- The number of characters passed. -/
  index : Nat := 0
  /-- The number of lines passed. -/
  line : Nat := 0
  /-- The number of characters passed in the line. -/
  column : Nat := 0
  deriving Repr, Inhabited

/-- A space or a tab. -/
def isBlank (c : Char) : Bool := c == ' ' || c == '\t'

/-- A character that ends a line. -/
def isBreak (c : Char) : Bool :=
  c == '\n' || c == '\r' || c.toNat == 0x85 || c.toNat == 0x2028 || c.toNat == 0x2029

/-- A character of names. -/
def isNameChar (c : Char) : Bool :=
  ('0' ≤ c && c ≤ '9') || ('A' ≤ c && c ≤ 'Z') || ('a' ≤ c && c ≤ 'z') || c == '_' || c == '-'

/-- Whether a line or the text ends at the front. -/
def atBreakOrEnd : List Char → Bool
  | [] => true
  | c :: _ => isBreak c

/-- Whether white space, the end of a line or of the text is at the front. -/
def atBlankOrEnd : List Char → Bool
  | [] => true
  | c :: _ => isBlank c || isBreak c

/-- Whether white space is at the front. -/
def atBlank : List Char → Bool
  | [] => false
  | c :: _ => isBlank c

/-- Whether the end of a line is at the front. -/
def atBreak : List Char → Bool
  | [] => false
  | c :: _ => isBreak c

/-- Whether a mark of three characters that divides documents is at the front. -/
def atDocumentMark : List Char → Bool
  | '-' :: '-' :: '-' :: rest => atBlankOrEnd rest
  | '.' :: '.' :: '.' :: rest => atBlankOrEnd rest
  | _ => false

namespace Cursor

/-- Passes a number of characters of the line. -/
def skip (c : Cursor) (n : Nat) : Cursor :=
  { c with rest := c.rest.drop n, index := c.index + n, column := c.column + n }

/-- Passes the characters of the line that satisfy `p`, and gives them. -/
def takeWhile (c : Cursor) (p : Char → Bool) : List Char × Cursor :=
  let taken := c.rest.takeWhile p
  (taken, c.skip taken.length)

/-- Passes the characters of the line that satisfy `p`. -/
def skipWhile (c : Cursor) (p : Char → Bool) : Cursor := (c.takeWhile p).2

/-- Passes the end of a line, and gives it as it counts in a scalar. -/
def takeBreak (c : Cursor) : List Char × Cursor :=
  match c.rest with
  | '\r' :: '\n' :: rest => (['\n'], ⟨rest, c.index + 2, c.line + 1, 0⟩)
  | b :: rest =>
    if b.toNat = 0x2028 ∨ b.toNat = 0x2029 then ([b], ⟨rest, c.index + 1, c.line + 1, 0⟩)
    else if isBreak b then (['\n'], ⟨rest, c.index + 1, c.line + 1, 0⟩)
    else ([], c)
  | [] => ([], c)

/-- Passes the end of a line. -/
def skipBreak (c : Cursor) : Cursor := c.takeBreak.2

/-- Passes a comment up to the end of the line. -/
def skipComment (c : Cursor) : Cursor :=
  match c.rest with
  | '#' :: _ => c.skipWhile (!isBreak ·)
  | _ => c

end Cursor

/-! ## Decoding -/

/-- Whether a character may stand in YAML text. -/
def isAllowed (c : Char) : Bool :=
  let n := c.toNat
  n == 9 || n == 10 || n == 13 || (0x20 ≤ n && n ≤ 0x7e) || n == 0x85 ||
    (0xa0 ≤ n && n ≤ 0xd7ff) || (0xe000 ≤ n && n ≤ 0xfffd) || 0x10000 ≤ n

end LeakCheck.Yaml
