import LeakCheck.Pattern.Basic

/-!
# Matching

A regular expression is turned into a list of instructions, and a text is read once while the set
of instructions that can be under way is kept. `Program.search` says whether some part of the text
matches.
-/

namespace LeakCheck.Pattern

/-- One instruction; the numbers are those of the instructions that follow. -/
inductive Instruction where
  /-- Reads a character. -/
  | read (test : CharTest) (next : Nat)
  /-- Goes on in two ways. -/
  | fork (first second : Nat)
  /-- Goes on where a condition holds. -/
  | check (a : Anchor) (next : Nat)
  /-- Ends a match. -/
  | accept
  deriving Inhabited

/-- The instructions of a regular expression. -/
abbrev Program := Array Instruction

/-- Adds an instruction and gives its number. -/
def Program.add (p : Program) (i : Instruction) : Program × Nat := (p.push i, p.size)

/-- Repeats a step of compilation a number of times, each before what it gave the last time. -/
def chain (step : Program → Nat → Program × Nat) : Nat → Program → Nat → Program × Nat
  | 0, p, next => (p, next)
  | n + 1, p, next =>
    let (p, entry) := step p next
    chain step n p entry

/-- A step of compilation that can be left out. -/
def optionally (step : Program → Nat → Program × Nat) (leave : Nat) (p : Program) (next : Nat) :
    Program × Nat :=
  let (p, entry) := step p next
  p.add (.fork entry leave)

/-- A step of compilation that goes back to its beginning: the program, the number of the
instruction that decides whether to go back, and the entry of the step. -/
def loop (step : Program → Nat → Program × Nat) (p : Program) (next : Nat) :
    Program × Nat × Nat :=
  let (p, decide) := p.add .accept
  let (p, entry) := step p decide
  (p.setIfInBounds decide (.fork entry next), decide, entry)

mutual

/-- The instructions for an expression that is followed by the instruction `next`, and the number
of the first of them. -/
def compile : Regex → Program → Nat → Program × Nat
  | .empty, p, next => (p, next)
  | .char test, p, next => p.add (.read test next)
  | .anchor a, p, next => p.add (.check a next)
  | .concat parts, p, next => compileParts parts p next
  | .alternate choices, p, next => compileChoices choices p next
  | .group inside, p, next => compile inside p next
  | .star inside, p, next =>
    let (p, decide, _) := loop (compile inside) p next
    (p, decide)
  | .plus inside, p, next =>
    let (p, _, entry) := loop (compile inside) p next
    (p, entry)
  | .option inside, p, next => optionally (compile inside) next p next
  | .times inside least none, p, next =>
    let (p, decide, entry) := loop (compile inside) p next
    if least = 0 then (p, decide) else chain (compile inside) (least - 1) p entry
  | .times inside least (some most), p, next =>
    let (p, entry) := chain (optionally (compile inside) next) (most - least) p next
    chain (compile inside) least p entry

/-- The instructions for expressions that follow each other. -/
def compileParts : List Regex → Program → Nat → Program × Nat
  | [], p, next => (p, next)
  | r :: rest, p, next =>
    let (p, entry) := compileParts rest p next
    compile r p entry

/-- The instructions for several choices. -/
def compileChoices : List Regex → Program → Nat → Program × Nat
  | [], p, next => (p, next)
  | [r], p, next => compile r p next
  | r :: rest, p, next =>
    let (p, first) := compile r p next
    let (p, second) := compileChoices rest p next
    p.add (.fork first second)

end

/-- The whole program of an expression, and the number of its first instruction. -/
def Regex.program (r : Regex) : Program × Nat := compile r #[.accept] 0

/-- The instructions that are under way once those in `pending` are reached between two
characters. Each instruction is entered once, so twice their number bounds the rounds. -/
def Program.advance (p : Program) (before after : Option Char) :
    (fuel : Nat) → (pending : List Nat) → (seen : Array Bool) → (active : List Nat) → List Nat
  | 0, _, _, active => active
  | _ + 1, [], _, active => active
  | fuel + 1, i :: pending, seen, active =>
    if seen.getD i true then p.advance before after fuel pending seen active
    else
      let seen := seen.setIfInBounds i true
      match p[i]? with
      | some (.fork a b) => p.advance before after fuel (a :: b :: pending) seen active
      | some (.check a next) =>
        if a.holds before after then p.advance before after fuel (next :: pending) seen active
        else p.advance before after fuel pending seen active
      | _ => p.advance before after fuel pending seen (i :: active)

/-- Whether an instruction ends a match. -/
def Program.accepts (p : Program) (i : Nat) : Bool :=
  match p[i]? with
  | some .accept => true
  | _ => false

/-- The instruction that follows `i` when it reads the character `c`. -/
def Program.consume (p : Program) (c : Char) (i : Nat) : Option Nat :=
  match p[i]? with
  | some (Instruction.read test next) => if test.accepts c then some next else none
  | _ => none

/-- The instructions that are under way between two characters, when those in `reached` have been
reached and a match may begin here. -/
def Program.activeAt (p : Program) (start : Nat) (before after : Option Char)
    (reached : List Nat) : List Nat :=
  p.advance before after (2 * p.size + reached.length + 2) (start :: reached)
    (.replicate p.size false) []

/-- Whether a match ends in the text after `before`, when the instructions in `reached` have been
reached and a match may begin anywhere. -/
def Program.searchFrom (p : Program) (start : Nat) :
    List Char → (before : Option Char) → (reached : List Nat) → Bool
  | [], before, reached => (p.activeAt start before none reached).any p.accepts
  | c :: rest, before, reached =>
    let active := p.activeAt start before (some c) reached
    active.any p.accepts || p.searchFrom start rest (some c) (active.filterMap (p.consume c))

/-- A regular expression that is ready for use. -/
structure Expression where
  /-- Its written form. -/
  source : String
  /-- Its instructions. -/
  program : Program
  /-- The number of the first instruction. -/
  start : Nat

/-- Whether some part of a text matches. -/
def Expression.search (e : Expression) (text : List Char) : Bool :=
  e.program.searchFrom e.start text none []

end LeakCheck.Pattern
