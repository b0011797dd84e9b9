/-!
# White space

The white space that texts are trimmed of.
-/

namespace LeakCheck.Text

/-- The characters with the property `White_Space`. -/
def isBlank (c : Char) : Bool :=
  let n := c.toNat
  (9 ≤ n && n ≤ 13) || n == 0x20 || n == 0x85 || n == 0xa0 || n == 0x1680 ||
    (0x2000 ≤ n && n ≤ 0x200a) || n == 0x2028 || n == 0x2029 || n == 0x202f || n == 0x205f ||
    n == 0x3000

/-- A list without the items at its front that satisfy `p`. -/
def trimStart (p : Char → Bool) (cs : List Char) : List Char := cs.dropWhile p

/-- A list without the items at its end that satisfy `p`. -/
def trimEnd (p : Char → Bool) (cs : List Char) : List Char := (cs.reverse.dropWhile p).reverse

/-- A list without the items at either end that satisfy `p`. -/
def trimBoth (p : Char → Bool) (cs : List Char) : List Char := trimEnd p (trimStart p cs)

/-- A text without white space at either end. -/
def trimBlank (s : String) : String := String.ofList (trimBoth isBlank s.toList)

end LeakCheck.Text
