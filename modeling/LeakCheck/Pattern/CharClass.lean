import LeakCheck.Text.CaseFold
import LeakCheck.Text.Script

/-!
# Character classes

A class is a list of items, each a test of code points, and may be negated as a whole. Without
regard to case, a test holds of a code point if it holds of one that is the same but for case.
-/

namespace LeakCheck.Pattern

/-- A set of code points. -/
inductive CodeSet where
  /-- The code points between two, both included. -/
  | range (lo hi : Nat)
  /-- The code points in one of several ranges. -/
  | ranges (rs : List (Nat × Nat))
  /-- The code points whose general category is one of these, each given by one or two letters. -/
  | category (names : List String)
  /-- The code points of the script with this code. -/
  | script (code : String)
  /-- All code points. -/
  | any
  deriving Repr, Inhabited

/-- Whether a category is one of those that a name of one or two letters stands for. -/
def categoryMatches (category name : String) : Bool := category.startsWith name

/-- Membership in a set of code points. -/
def CodeSet.mem (code : Nat) : CodeSet → Bool
  | .range lo hi => lo ≤ code && code ≤ hi
  | .ranges rs => rs.any fun r => r.1 ≤ code && code ≤ r.2
  | .category names =>
    let category := Text.categoryOf code
    names.any (categoryMatches category)
  | .script s => (Text.Run.find? Text.scriptRuns code).any (·.value == s)
  | .any => true

/-- A test of code points. -/
structure ClassItem where
  /-- The set the test is about. -/
  set : CodeSet
  /-- Whether the test is for being outside of the set. -/
  negated : Bool := false
  /-- Whether case is disregarded. -/
  fold : Bool := false
  deriving Repr, Inhabited

/-- Whether a code point passes a test. -/
def ClassItem.mem (code : Nat) (i : ClassItem) : Bool :=
  let inside :=
    if i.fold then (Text.foldOrbit code).any fun c => i.set.mem c else i.set.mem code
  inside != i.negated

/-- A class of characters: those that pass one of the tests, or none if it is negated. -/
structure CharClass where
  /-- The tests. -/
  items : List ClassItem
  /-- Whether the characters are those that pass no test. -/
  negated : Bool := false
  deriving Repr, Inhabited

/-- Whether a character belongs to a class. -/
def CharClass.mem (c : Char) (cls : CharClass) : Bool :=
  cls.items.any (·.mem c.toNat) != cls.negated

/-! ## Named classes -/

/-- The code points of the classes with names between colons. -/
def posixClass? (name : String) : Option (List (Nat × Nat)) :=
  match name with
  | "alnum" => some [(0x30, 0x39), (0x41, 0x5a), (0x61, 0x7a)]
  | "alpha" => some [(0x41, 0x5a), (0x61, 0x7a)]
  | "ascii" => some [(0x00, 0x7f)]
  | "blank" => some [(0x09, 0x09), (0x20, 0x20)]
  | "cntrl" => some [(0x00, 0x1f), (0x7f, 0x7f)]
  | "digit" => some [(0x30, 0x39)]
  | "graph" => some [(0x21, 0x7e)]
  | "lower" => some [(0x61, 0x7a)]
  | "print" => some [(0x20, 0x7e)]
  | "punct" => some [(0x21, 0x2f), (0x3a, 0x40), (0x5b, 0x60), (0x7b, 0x7e)]
  | "space" => some [(0x09, 0x0d), (0x20, 0x20)]
  | "upper" => some [(0x41, 0x5a)]
  | "word" => some [(0x30, 0x39), (0x41, 0x5a), (0x5f, 0x5f), (0x61, 0x7a)]
  | "xdigit" => some [(0x30, 0x39), (0x41, 0x46), (0x61, 0x66)]
  | _ => none

/-- The code points of the classes that a letter after a backslash stands for, and whether it
stands for those outside. -/
def escapedClass? (letter : Char) : Option (List (Nat × Nat) × Bool) :=
  let digits := [(0x30, 0x39)]
  let spaces := [(0x09, 0x0a), (0x0c, 0x0d), (0x20, 0x20)]
  let words := [(0x30, 0x39), (0x41, 0x5a), (0x5f, 0x5f), (0x61, 0x7a)]
  match letter with
  | 'd' => some (digits, false)
  | 'D' => some (digits, true)
  | 's' => some (spaces, false)
  | 'S' => some (spaces, true)
  | 'w' => some (words, false)
  | 'W' => some (words, true)
  | _ => none

/-- The names of the general categories by one or two letters. -/
def categoryNames : List String :=
  ["C", "Cc", "Cf", "Cn", "Co", "Cs", "L", "Ll", "Lm", "Lo", "Lt", "Lu", "M", "Mc", "Me", "Mn",
    "N", "Nd", "Nl", "No", "P", "Pc", "Pd", "Pe", "Pf", "Pi", "Po", "Ps", "S", "Sc", "Sk", "Sm",
    "So", "Z", "Zl", "Zp", "Zs"]

/-- The long names of the general categories. -/
def categoryAliases : List (String × String) :=
  [("Cased_Letter", "LC"), ("Close_Punctuation", "Pe"), ("Combining_Mark", "M"),
    ("Connector_Punctuation", "Pc"), ("Control", "Cc"), ("Currency_Symbol", "Sc"),
    ("Dash_Punctuation", "Pd"), ("Decimal_Number", "Nd"), ("Enclosing_Mark", "Me"),
    ("Final_Punctuation", "Pf"), ("Format", "Cf"), ("Initial_Punctuation", "Pi"),
    ("Letter", "L"), ("Letter_Number", "Nl"), ("Line_Separator", "Zl"),
    ("Lowercase_Letter", "Ll"), ("Mark", "M"), ("Math_Symbol", "Sm"), ("Modifier_Letter", "Lm"),
    ("Modifier_Symbol", "Sk"), ("Nonspacing_Mark", "Mn"), ("Number", "N"),
    ("Open_Punctuation", "Ps"), ("Other", "C"), ("Other_Letter", "Lo"), ("Other_Number", "No"),
    ("Other_Punctuation", "Po"), ("Other_Symbol", "So"), ("Paragraph_Separator", "Zp"),
    ("Private_Use", "Co"), ("Punctuation", "P"), ("Separator", "Z"), ("Space_Separator", "Zs"),
    ("Spacing_Mark", "Mc"), ("Surrogate", "Cs"), ("Symbol", "S"), ("Titlecase_Letter", "Lt"),
    ("Unassigned", "Cn"), ("Uppercase_Letter", "Lu"), ("cntrl", "Cc"), ("digit", "Nd"),
    ("punct", "P")]

/-- A name without regard to case, spaces, hyphens and underscores. -/
def canonicalName (name : String) : List Char :=
  (name.toList.filter fun c => c ≠ '_' ∧ c ≠ '-' ∧ c ≠ ' ').map Char.toLower

/-- The set of code points with a property, and whether the name stands for those outside of it. -/
def property? (name : String) : Option (CodeSet × Bool) :=
  let key := canonicalName name
  let same (other : String) : Bool := canonicalName other == key
  let cased := ["Lu", "Ll", "Lt"]
  if same "Any" then some (.any, false)
  else if same "Assigned" then some (.category ["Cn"], true)
  else if same "ASCII" then some (.range 0 0x7f, false)
  else if same "LC" then some (.category cased, false)
  else
    match categoryNames.find? same with
    | some category => some (.category [category], false)
    | none =>
      match Text.scripts.find? (same ·.1) with
      | some (_, code) => some (.script code, false)
      | none =>
        match categoryAliases.find? (same ·.1) with
        | some (_, category) =>
          some (.category (if category = "LC" then cased else [category]), false)
        | none => none

end LeakCheck.Pattern
