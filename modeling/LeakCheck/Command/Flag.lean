import LeakCheck.Text.Numeral
import LeakCheck.Text.Order
import LeakCheck.Text.Quoted
import LeakCheck.Text.Utf8

/-!
# Flags of the command

The flags of the command line and how they are given: `--name value`, `--name=value`, `-n value`,
`-nvalue` and `-n=value`. Flags may follow arguments, and all that follows `--` are arguments.
-/

namespace LeakCheck.Command

/-- The flags. -/
inductive Flag where
  | concurrency
  | config
  | dumps
  | help
  | logLevel
  | logOutput
  | noColor
  deriving DecidableEq, Repr, Inhabited

/-- What the value of a flag is. -/
inductive Kind where
  | text
  | integer
  | truth
  deriving DecidableEq, Repr, Inhabited

namespace Flag

/-- All flags, by their names. -/
def all : List Flag := [.concurrency, .config, .dumps, .help, .logLevel, .logOutput, .noColor]

/-- The name of a flag. -/
def name : Flag → String
  | .concurrency => "concurrency"
  | .config => "config"
  | .dumps => "dot-dir"
  | .help => "help"
  | .logLevel => "log.level"
  | .logOutput => "log.output"
  | .noColor => "no-color"

/-- The letter of a flag. -/
def letter : Flag → Option Char
  | .concurrency => some 'j'
  | .config => some 'c'
  | .help => some 'h'
  | _ => none

/-- What the value of a flag is. -/
def kind : Flag → Kind
  | .concurrency => .integer
  | .help => .truth
  | .noColor => .truth
  | _ => .text

/-- How a flag is called in messages. -/
def label (f : Flag) : String :=
  match f.letter with
  | some c => "-" ++ c.toString ++ ", --" ++ f.name
  | none => "--" ++ f.name

/-- The environment variable that a flag can be given by. -/
def environmentName? : Flag → Option String
  | .concurrency => some "SECRETFLOW_CONCURRENCY"
  | .config => some "SECRETFLOW_CONFIG"
  | .dumps => some "SECRETFLOW_DOT_DIR"
  | .help => none
  | .logLevel => some "SECRETFLOW_LOG_LEVEL"
  | .logOutput => some "SECRETFLOW_LOG_OUTPUT"
  | .noColor => some "SECRETFLOW_NO_COLOR"

/-- The flag with a name. -/
def ofName? (name : String) : Option Flag := all.find? (·.name = name)

/-- The flag with a letter. -/
def ofLetter? (c : Char) : Option Flag := all.find? (·.letter = some c)

end Flag

/-! ## Values -/

/-- The value of a flag. -/
inductive FlagValue where
  | text (s : String)
  | integer (n : Int)
  | truth (b : Bool)
  deriving DecidableEq, Repr, Inhabited

/-- Reads a truth value. -/
def readTruth? (s : String) : Option Bool :=
  if s ∈ ["1", "t", "T", "TRUE", "true", "True"] then some true
  else if s ∈ ["0", "f", "F", "FALSE", "false", "False"] then some false
  else none

/-- Why arguments are refused. -/
inductive FlagError where
  /-- An argument is not written like a flag. -/
  | badForm (arg : String)
  /-- There is no flag with this name. -/
  | unknown (name : String)
  /-- There is no flag with the first of these letters. -/
  | unknownLetter (letters : List Char)
  /-- The last argument is a flag that needs a value. -/
  | needsValue (arg : String)
  /-- The last argument is the letter of a flag that needs a value. -/
  | letterNeedsValue (c : Char)
  /-- A value is not an integer. -/
  | notInteger (f : Flag) (value : String) (e : Text.NumeralError)
  /-- A value is not a truth value. -/
  | notTruth (f : Flag) (value : String)
  deriving DecidableEq, Repr, Inhabited

/-- A character between single quotes. -/
def quoteLetter (c : Char) : String :=
  let body :=
    if c = '\'' then ['\\', '\''] else if c = '"' then ['"'] else Text.quoteChar c
  String.ofList (['\''] ++ body ++ ['\''])

/-- The character that the first byte of a character is, taken by itself. -/
def firstByte (c : Char) : Char :=
  match Text.bytes c.toString with
  | b :: _ => Char.ofNat b.toNat
  | [] => c

/-- The refusal of a value. -/
def invalidText (f : Flag) (value cause : String) : String :=
  "invalid argument " ++ Text.quote value ++ " for " ++ Text.quote f.label ++ " flag: " ++ cause

/-- The wording of a refusal. -/
def FlagError.message : FlagError → String
  | .badForm arg => "bad flag syntax: " ++ arg
  | .unknown name => "unknown flag: --" ++ name
  | .unknownLetter letters =>
    "unknown shorthand flag: " ++ quoteLetter (firstByte (letters.headD ' ')) ++ " in -" ++
      String.ofList letters
  | .needsValue arg => "flag needs an argument: " ++ arg
  | .letterNeedsValue c =>
    "flag needs an argument: " ++ quoteLetter c ++ " in -" ++ c.toString
  | .notInteger f value e =>
    invalidText f value ("strconv.ParseInt: parsing " ++ Text.quote value ++ ": " ++ e.message)
  | .notTruth f value =>
    invalidText f value ("strconv.ParseBool: parsing " ++ Text.quote value ++ ": invalid syntax")

/-- Reads the value of a flag. -/
def Flag.read (f : Flag) (value : String) : Except FlagError FlagValue :=
  match f.kind with
  | .text => .ok (.text value)
  | .integer =>
    match Text.readInteger value.toList with
    | .ok n => .ok (.integer n)
    | .error e => .error (.notInteger f value e)
  | .truth =>
    match readTruth? value with
    | some b => .ok (.truth b)
    | none => .error (.notTruth f value)

/-! ## Arguments -/

/-- What was given on the command line. -/
structure Given where
  /-- The flags with their values, the latest first. -/
  flags : List (Flag × FlagValue) := []
  /-- The arguments that are not flags. -/
  args : List String := []
  deriving DecidableEq, Repr, Inhabited

/-- The value that was given to a flag last. -/
def Given.get? (g : Given) (f : Flag) : Option FlagValue := g.flags.lookup f

/-- Gives a value to a flag. -/
def Given.set (g : Given) (f : Flag) (value : String) : Except FlagError Given :=
  (f.read value).map fun v => { g with flags := (f, v) :: g.flags }

/-- A flag that waits for its value, and what is wrong if none follows. -/
abbrev Awaited := Option (Flag × FlagError)

/-- Takes a flag that is given by its name. -/
def Given.takeNamed (g : Given) (arg : String) : Except FlagError (Given × Awaited) :=
  let body := arg.toList.drop 2
  if body.head?.all fun c => c = '-' ∨ c = '=' then .error (.badForm arg)
  else
    let name := String.ofList (body.takeWhile (· ≠ '='))
    match Flag.ofName? name with
    | none => .error (.unknown name)
    | some f =>
      match body.dropWhile (· ≠ '=') with
      | _ :: value => (g.set f (String.ofList value)).map (·, none)
      | [] =>
        if f.kind = .truth then (g.set f "true").map (·, none)
        else .ok (g, some (f, .needsValue arg))

/-- Takes flags that are given by their letters. Letters that begin with `test.` are passed over. -/
def Given.takeLetters (g : Given) (letters : List Char) : Except FlagError (Given × Awaited) :=
  match letters with
  | [] => .ok (g, none)
  | c :: rest =>
    if "test.".toList.isPrefixOf letters then .ok (g, none)
    else
      match Flag.ofLetter? c with
      | none => .error (.unknownLetter letters)
      | some f =>
        match rest with
        | '=' :: d :: value => (g.set f (String.ofList (d :: value))).map (·, none)
        | _ =>
          if f.kind = .truth then
            match g.set f "true" with
            | .error e => .error e
            | .ok g => g.takeLetters rest
          else if rest.isEmpty then .ok (g, some (f, .letterNeedsValue c))
          else (g.set f (String.ofList rest)).map (·, none)

/-- Takes arguments in turn. -/
def Given.take (g : Given) (awaited : Awaited) : List String → Except FlagError Given
  | [] =>
    match awaited with
    | some (_, e) => .error e
    | none => .ok g
  | arg :: rest =>
    match awaited with
    | some (f, _) =>
      match g.set f arg with
      | .error e => .error e
      | .ok g => g.take none rest
    | none =>
      match arg.toList with
      | ['-', '-'] => .ok { g with args := g.args ++ rest }
      | '-' :: '-' :: _ =>
        match g.takeNamed arg with
        | .error e => .error e
        | .ok (g, awaited) => g.take awaited rest
      | '-' :: c :: letters =>
        match g.takeLetters (c :: letters) with
        | .error e => .error e
        | .ok (g, awaited) => g.take awaited rest
      | _ => Given.take { g with args := g.args ++ [arg] } none rest

/-- Reads the command line. -/
def Given.read (args : List String) : Except FlagError Given := Given.take {} none args

end LeakCheck.Command
