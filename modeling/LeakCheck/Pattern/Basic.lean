import LeakCheck.Pattern.CharClass

/-!
# Regular expressions

The abstract form of a regular expression, and the ways in which its written form can be wrong.
-/

namespace LeakCheck.Pattern

/-- A condition on the place between two characters. -/
inductive Anchor where
  /-- The text begins here. -/
  | textStart
  /-- The text ends here. -/
  | textEnd
  /-- A line begins here. -/
  | lineStart
  /-- A line ends here. -/
  | lineEnd
  /-- A word begins or ends here. -/
  | wordBoundary
  /-- No word begins or ends here. -/
  | noWordBoundary
  deriving DecidableEq, Repr, Inhabited

/-- Whether a character belongs to words. -/
def isWordChar (c : Char) : Bool :=
  ('0' ≤ c && c ≤ '9') || ('A' ≤ c && c ≤ 'Z') || c == '_' || ('a' ≤ c && c ≤ 'z')

/-- Whether a condition holds between two characters, or at an end of the text. -/
def Anchor.holds (before after : Option Char) : Anchor → Bool
  | .textStart => before.isNone
  | .textEnd => after.isNone
  | .lineStart => before.isNone || before == some '\n'
  | .lineEnd => after.isNone || after == some '\n'
  | .wordBoundary => before.any isWordChar != after.any isWordChar
  | .noWordBoundary => before.any isWordChar == after.any isWordChar

/-- What a single character has to be. -/
inductive CharTest where
  /-- This very code point. -/
  | exactly (code : Nat)
  /-- This code point without regard to case. -/
  | folded (code : Nat)
  /-- Any character. -/
  | any
  /-- Any character but the end of a line. -/
  | notNewline
  /-- A character of a class. -/
  | oneOf (cls : CharClass)
  deriving Repr, Inhabited

/-- Whether a character passes a test. -/
def CharTest.accepts (c : Char) : CharTest → Bool
  | .exactly code => c.toNat == code
  | .folded code => Text.foldCode c.toNat == Text.foldCode code
  | .any => true
  | .notNewline => c != '\n'
  | .oneOf cls => cls.mem c

/-- A regular expression. -/
inductive Regex where
  /-- Matches the empty text. -/
  | empty
  /-- Matches one character. -/
  | char (test : CharTest)
  /-- Matches the empty text where a condition holds. -/
  | anchor (a : Anchor)
  /-- Matches what its parts match one after the other. -/
  | concat (parts : List Regex)
  /-- Matches what one of its choices matches. -/
  | alternate (choices : List Regex)
  /-- Matches what is inside, as a group of its own. -/
  | group (inside : Regex)
  /-- Any number of matches of what is inside. -/
  | star (inside : Regex)
  /-- One match or more of what is inside. -/
  | plus (inside : Regex)
  /-- One match of what is inside, or none. -/
  | option (inside : Regex)
  /-- At least `least` matches of what is inside, and at most `most` if that is given. -/
  | times (inside : Regex) (least : Nat) (most : Option Nat)
  deriving Repr, Inhabited

/-- What is wrong with the written form of a regular expression; most faults name the part that is
wrong. -/
inductive Fault where
  | invalidClassRange (part : String)
  | invalidEscape (part : String)
  | invalidNamedCapture (part : String)
  | invalidGroupSyntax (part : String)
  | nestedRepetition (part : String)
  | invalidRepeatCount (part : String)
  | missingBracket (part : String)
  | missingParenthesis (part : String)
  | missingOperand (part : String)
  | trailingBackslash
  | unexpectedParenthesis (part : String)
  | nestsTooDeeply (part : String)
  | tooLarge (part : String)
  deriving DecidableEq, Repr, Inhabited

/-- The wording of a fault and the part it names. -/
def Fault.parts : Fault → String × String
  | .invalidClassRange p => ("invalid character class range", p)
  | .invalidEscape p => ("invalid escape sequence", p)
  | .invalidNamedCapture p => ("invalid named capture", p)
  | .invalidGroupSyntax p => ("invalid or unsupported Perl syntax", p)
  | .nestedRepetition p => ("invalid nested repetition operator", p)
  | .invalidRepeatCount p => ("invalid repeat count", p)
  | .missingBracket p => ("missing closing ]", p)
  | .missingParenthesis p => ("missing closing )", p)
  | .missingOperand p => ("missing argument to repetition operator", p)
  | .trailingBackslash => ("trailing backslash at end of expression", "")
  | .unexpectedParenthesis p => ("unexpected )", p)
  | .nestsTooDeeply p => ("expression nests too deeply", p)
  | .tooLarge p => ("expression too large", p)

/-- The message of a fault. -/
def Fault.message (f : Fault) : String :=
  "error parsing regexp: " ++ f.parts.1 ++ ": \x60" ++ f.parts.2 ++ "\x60"

/-! ## Measures -/

mutual

/-- How many instructions a regular expression comes to at most. -/
def Regex.size : Regex → Nat
  | .empty => 1
  | .char _ => 1
  | .anchor _ => 1
  | .concat parts => max 1 (Regex.sizes parts)
  | .alternate choices => max 1 (Regex.sizes choices + (choices.length - 1))
  | .group inside => 2 + inside.size
  | .star inside => 2 + inside.size
  | .plus inside => 1 + inside.size
  | .option inside => 1 + inside.size
  | .times inside least none => if least = 0 then 2 + inside.size else 1 + least * inside.size
  | .times inside least (some most) => max 1 (most * inside.size + (most - least))

/-- The sum of the sizes. -/
def Regex.sizes : List Regex → Nat
  | [] => 0
  | r :: rest => r.size + Regex.sizes rest

end

mutual

/-- How deeply the operators of a regular expression are nested. -/
def Regex.height : Regex → Nat
  | .empty => 1
  | .char _ => 1
  | .anchor _ => 1
  | .concat parts => 1 + Regex.heights parts
  | .alternate choices => 1 + Regex.heights choices
  | .group inside => 1 + inside.height
  | .star inside => 1 + inside.height
  | .plus inside => 1 + inside.height
  | .option inside => 1 + inside.height
  | .times inside _ _ => 1 + inside.height

/-- The largest of the heights. -/
def Regex.heights : List Regex → Nat
  | [] => 0
  | r :: rest => max r.height (Regex.heights rest)

end

mutual

/-- Whether repetitions inside of each other make at most `limit` copies of anything. -/
def Regex.repeatsWithin (limit : Nat) : Regex → Bool
  | .empty => true
  | .char _ => true
  | .anchor _ => true
  | .concat parts => Regex.allRepeatWithin limit parts
  | .alternate choices => Regex.allRepeatWithin limit choices
  | .group inside => inside.repeatsWithin limit
  | .star inside => inside.repeatsWithin limit
  | .plus inside => inside.repeatsWithin limit
  | .option inside => inside.repeatsWithin limit
  | .times inside least most =>
    let copies := most.getD least
    if most = some 0 then true
    else if limit < copies then false
    else inside.repeatsWithin (if 0 < copies then limit / copies else limit)

/-- The same for each of several expressions. -/
def Regex.allRepeatWithin (limit : Nat) : List Regex → Bool
  | [] => true
  | r :: rest => r.repeatsWithin limit && Regex.allRepeatWithin limit rest

end

end LeakCheck.Pattern
