import LeakCheck.Text.CategoryTable

/-!
# General categories

`categoryOf` gives the general category of a code point and `isPrintable` the characters that are
shown as themselves in quoted text.
-/

namespace LeakCheck.Text

/-- A maximal stretch of code points that share a property value. -/
structure Run where
  /-- The first code point of the stretch. -/
  first : Nat
  /-- The last code point of the stretch. -/
  last : Nat
  /-- The shared value. -/
  value : String
  deriving Repr, Inhabited

/-- The value of a hexadecimal digit in lower or upper case. -/
def hexValue? (c : Char) : Option Nat :=
  if '0' ≤ c ∧ c ≤ '9' then some (c.toNat - 48)
  else if 'a' ≤ c ∧ c ≤ 'f' then some (c.toNat - 87)
  else if 'A' ≤ c ∧ c ≤ 'F' then some (c.toNat - 55)
  else none

/-- The number written by hexadecimal digits, most significant first. -/
def hexNat? (digits : List Char) : Option Nat :=
  digits.foldlM (fun n c => (hexValue? c).map (16 * n + ·)) 0

/-- Reads a table of run lengths whose values have `width` letters each. -/
def Run.ofTable (width : Nat) (table : List String) : Array Run :=
  let step (acc : Nat × Array Run) (item : String) : Nat × Array Run :=
    let cs := item.toList
    let digits := cs.take (cs.length - width)
    let length := (hexNat? digits).getD 0
    (acc.1 + length,
      acc.2.push ⟨acc.1, acc.1 + length - 1, String.ofList (cs.drop (cs.length - width))⟩)
  (table.flatMap (·.splitOn " ")).foldl step (0, #[]) |>.2

/-- The stretch that holds `code`, found by halving the interval of candidates. -/
def Run.find? (runs : Array Run) (code : Nat) : Option Run :=
  let rec go (fuel lo hi : Nat) : Option Run :=
    match fuel with
    | 0 => none
    | fuel + 1 =>
      if hi ≤ lo then none
      else
        let mid := (lo + hi) / 2
        match runs[mid]? with
        | none => none
        | some run =>
          if code < run.first then go fuel lo mid
          else if run.last < code then go fuel (mid + 1) hi
          else some run
  go (runs.size + 1) 0 runs.size

/-- The runs of equal general category. -/
def categoryRuns : Array Run := Run.ofTable 2 categoryTable

/-- The two letters of a code point's general category. -/
def categoryOf (code : Nat) : String :=
  match Run.find? categoryRuns code with
  | some run => run.value
  | none => "Cn"

/-- Letters, marks, numbers, punctuation, symbols and the ASCII space are printable. -/
def isPrintable (c : Char) : Bool :=
  if c.toNat < 0x7f then 0x20 ≤ c.toNat
  else
    let category := categoryOf c.toNat
    !(category.startsWith "C" || category.startsWith "Z")

end LeakCheck.Text
