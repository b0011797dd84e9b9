import LeakCheck.Text.Decimal

/-!
# Log levels

A level is an integer between -128 and 127, of which some have names. An event is written by the
loggers whose level is not above its own.
-/

namespace LeakCheck.Log

/-- The weight of an event. -/
structure Level where
  /-- Its rank among the levels. -/
  rank : Int
  deriving DecidableEq, Repr, Inhabited

namespace Level

/-- The steps of an algorithm. -/
def trace : Level := ⟨-1⟩
/-- What helps to understand a run. -/
def debug : Level := ⟨0⟩
/-- What a user may want to know. -/
def info : Level := ⟨1⟩
/-- What a user should know. -/
def warn : Level := ⟨2⟩
/-- A failure. -/
def error : Level := ⟨3⟩
/-- The level of events that have none. -/
def unset : Level := ⟨6⟩
/-- The level of loggers that write nothing. -/
def disabled : Level := ⟨7⟩

/-- The levels that have names. -/
def names : List (String × Int) :=
  [("trace", -1), ("debug", 0), ("info", 1), ("warn", 2), ("error", 3), ("fatal", 4),
    ("panic", 5), ("disabled", 7), ("", 6)]

/-- The name of a level; a level without one is called by its rank. -/
def name (l : Level) : String :=
  match names.find? (·.2 == l.rank) with
  | some (name, _) => name
  | none => toString l.rank

/-- Why a text is not a level. -/
inductive ReadError where
  /-- It is neither a name nor a number. -/
  | unknown (text : String)
  /-- It is a number that no level has. -/
  | outOfBounds (rank : Int)
  deriving DecidableEq, Repr, Inhabited

/-- The wording of the refusal. -/
def ReadError.message : ReadError → String
  | .unknown text => "Unknown Level String: '" ++ text ++ "', defaulting to NoLevel"
  | .outOfBounds rank => "Out-Of-Bounds Level: '" ++ toString rank ++ "', defaulting to NoLevel"

/-- Reads a level: a name as it is, or else a rank. -/
def read (text : String) : Except ReadError Level :=
  match names.lookup text with
  | some rank => .ok ⟨rank⟩
  | none =>
    match Text.readInt? text with
    | none => .error (.unknown text)
    | some rank => if rank < -128 ∨ 127 < rank then .error (.outOfBounds rank) else .ok ⟨rank⟩

/-- Whether a logger of level `l` writes events of level `event`. -/
def admits (l event : Level) : Bool := l.rank ≤ event.rank

end Level

end LeakCheck.Log
