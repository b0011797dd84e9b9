import LeakCheck.Config.Exclusion
import LeakCheck.Log.Level
import LeakCheck.Propagation.Analysis
import LeakCheck.Yaml.ToJson

/-!
# Configuration

The settings of an analysis, read from YAML. Keys are matched without regard to case, and a key that
has no meaning is refused.
-/

namespace LeakCheck

open Config (Exclusion) in
/-- The settings of an analysis. -/
structure Config where
  /-- The name of the operation whose results are secret. -/
  secret : String := ""
  /-- The functions that are not analysed. -/
  exclude : List Exclusion := []
  /-- What is added to the report of a leak. -/
  message : String := ""
  /-- The directory of the dumps; none are written if it is empty. -/
  dumps : String := ""
  /-- The log level; nothing is logged if it is empty. -/
  logLevel : String := ""
  deriving Inhabited

namespace Config

/-- Whether a function is not analysed. -/
def isExcluded (c : Config) (path receiver name : String) : Bool :=
  c.exclude.any (·.covers path receiver name)

/-! ## Keys -/

/-- The keys of a configuration. -/
inductive Key where
  | secret
  | exclude
  | message
  | dumps
  | logLevel
  deriving DecidableEq, Repr, Inhabited

/-- How a key is written. -/
def Key.text : Key → String
  | .secret => "SecretOperation"
  | .exclude => "Exclude"
  | .message => "ReportMessage"
  | .dumps => "DebugOutput"
  | .logLevel => "LogLevel"

/-- All keys. -/
def Key.all : List Key := [.secret, .exclude, .message, .dumps, .logLevel]

/-- The key that a text means. Case does not matter. -/
def Key.ofText? (s : String) : Option Key := Key.all.find? fun k => Text.equalFold k.text s

/-- Whether the value under a key is a text. -/
def Key.holdsText (s : String) : Bool := (Key.ofText? s).any (· ≠ .exclude)

/-! ## Reading -/

/-- Why a configuration is refused. -/
inductive ReadError where
  /-- The text is not YAML that has a JSON form. -/
  | yaml
  /-- A value has the wrong type. -/
  | mistyped
  /-- A key has no meaning. -/
  | unknownField (key : String)
  /-- A text is not an expression. -/
  | expression (f : Pattern.Fault)
  /-- An attribute of an exclusion is given twice. -/
  | conflict (a : Attribute)
  /-- The log level is none. -/
  | logLevel (e : Log.Level.ReadError)
  deriving DecidableEq, Repr, Inhabited

/-- The wording of a refusal as far as it is settled. -/
def ReadError.message : ReadError → String
  | .yaml => ""
  | .mistyped => ""
  | .unknownField key => "unknown field " ++ Text.quote key
  | .expression f => f.message
  | .conflict a =>
    "expected at most one of " ++ a.key ++ ", " ++ a.expressionKey ++ " to be configured"
  | .logLevel e => "error parsing analysis config: LogLevel: " ++ e.message

/-- The wording of a refusal in full. Of malformed text and of types it says no more than that. -/
def ReadError.report (e : ReadError) : String :=
  let decoding := "error parsing analysis config: error unmarshaling JSON: while decoding JSON: "
  match e with
  | .yaml => "error parsing analysis config: error converting YAML to JSON: yaml: malformed text"
  | .mistyped => decoding ++ "json: value of a wrong type"
  | .unknownField _ => decoding ++ "json: " ++ e.message
  | .expression _ => decoding ++ e.message
  | .conflict _ => decoding ++ e.message
  | .logLevel _ => e.message

/-- The refusal of a configuration because of an entry. -/
def EntryError.toReadError : EntryError → ReadError
  | .unknownField key => .unknownField key
  | .mistyped => .mistyped
  | .expression f => .expression f
  | .conflict a => .conflict a

/-- What comes of a member of a configuration. -/
inductive Step where
  /-- The configuration as it is now. -/
  | next (c : Config)
  /-- A mistake that is noted; reading goes on. -/
  | note (e : ReadError)
  /-- A mistake that ends the reading. -/
  | stop (e : ReadError)

/-- Takes a text into a configuration. -/
def setText (c : Config) (key : Key) (s : String) : Config :=
  match key with
  | .secret => { c with secret := s }
  | .exclude => c
  | .message => { c with message := s }
  | .dumps => { c with dumps := s }
  | .logLevel => { c with logLevel := s }

/-- Takes a member into a configuration. Null leaves a text as it is. -/
def take (c : Config) (key : String) (value : Json) : Step :=
  match Key.ofText? key with
  | none => .note (.unknownField key)
  | some .exclude =>
    match value with
    | .null => .next { c with exclude := [] }
    | .array items =>
      match items.mapM Exclusion.ofJson with
      | .ok exclude => .next { c with exclude }
      | .error e => .stop e.toReadError
    | _ => .note .mistyped
  | some k =>
    match value with
    | .null => .next c
    | .string s => .next (c.setText k s)
    | _ => .note .mistyped

/-- Takes the members into a configuration. The first mistake that ends the reading is the result,
and else the first that was noted. -/
def takeAll (c : Config) (noted : Option ReadError) :
    List (String × Json) → Except ReadError Config
  | [] =>
    match noted with
    | none => .ok c
    | some e => .error e
  | (key, value) :: rest =>
    match c.take key value with
    | .next c => c.takeAll noted rest
    | .note e => c.takeAll (noted.or (some e)) rest
    | .stop e => .error e

/-- Reads a configuration from JSON. -/
def ofJson : Json → Except ReadError Config
  | .null => .ok {}
  | .object members => takeAll {} none members
  | _ => .error .mistyped

/-- The configuration with what it says where it says nothing. -/
def withDefaults (c : Config) : Config :=
  { c with secret := Propagation.secretOperation c.secret }

/-- Why the log level of a configuration is none. -/
def levelError? (c : Config) : Option Log.Level.ReadError :=
  if c.logLevel = "" then none
  else
    match Log.Level.read c.logLevel with
    | .ok _ => none
    | .error e => some e

/-- Reads a configuration from YAML text. -/
def read (bytes : List UInt8) : Except ReadError Config :=
  match Yaml.read bytes with
  | .error _ => .error .yaml
  | .ok v =>
    match v.recordJson? Key.holdsText with
    | none => .error .yaml
    | some json =>
      match ofJson json with
      | .error e => .error e
      | .ok c =>
        match c.levelError? with
        | some e => .error (.logLevel e)
        | none => .ok c.withDefaults

end Config

end LeakCheck
