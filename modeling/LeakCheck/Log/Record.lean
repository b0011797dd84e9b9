import LeakCheck.Log.Level
import LeakCheck.Text.Order
import LeakCheck.Text.Quoted

/-!
# Log records

A record has a level, named fields and a message. `Record.console` is the line that a terminal
shows for it, without the time.
-/

namespace LeakCheck.Log

/-- The value of a field. -/
inductive Field where
  /-- A text. -/
  | text (s : String)
  /-- A number. -/
  | number (n : Int)
  /-- No value. -/
  | absent
  deriving DecidableEq, Repr, Inhabited

/-- An event as it is logged. -/
structure Record where
  /-- Its level. -/
  level : Level := .unset
  /-- What happened. -/
  message : String := ""
  /-- The particulars, in the order they were added. -/
  fields : List (String × Field) := []
  deriving DecidableEq, Repr, Inhabited

/-- Sets the value of a key, which then stands where it first stood. -/
def setField (key : String) (value : Field) : List (String × Field) → List (String × Field)
  | [] => [(key, value)]
  | e :: rest => if e.1 = key then (key, value) :: rest else e :: setField key value rest

namespace Record

/-- The record as keys and values, each key once: the level unless there is none, the fields, and
the message unless it is empty. Of two values for one key the later counts. -/
def entries (r : Record) : List (String × Field) :=
  let level := if r.level = .unset then [] else [("level", Field.text r.level.name)]
  let message := if r.message = "" then [] else [("message", Field.text r.message)]
  (level ++ r.fields ++ message).foldl (fun acc e => setField e.1 e.2 acc) []

/-- The entries in the order of their keys. -/
def sortedEntries (r : Record) : List (String × Field) := Text.sortByText (·.1) r.entries

/-- The text of a value. -/
def valueText : Field → String
  | .text s => s
  | .number n => toString n
  | .absent => "<nil>"

/-- The text that records are sorted by where their order is left open. -/
def sortKey (r : Record) : String :=
  String.join (r.sortedEntries.map fun e => e.1 ++ "=" ++ valueText e.2 ++ "\x00")

/-- Records in a fixed order. -/
def sort (rs : List Record) : List Record := Text.sortByText sortKey rs

/-! ## The console form -/

/-- A text shown in a style of the terminal. -/
def styled (style : Nat) (s : String) : String :=
  "\x1b[" ++ toString style ++ "m" ++ s ++ "\x1b[0m"

/-- How a level is shown on a terminal. -/
def levelLabel : Option Field → String
  | some (.text "trace") => styled 35 "TRC"
  | some (.text "debug") => styled 33 "DBG"
  | some (.text "info") => styled 32 "INF"
  | some (.text "warn") => styled 31 "WRN"
  | some (.text "error") => styled 1 (styled 31 "ERR")
  | some (.text "fatal") => styled 1 (styled 31 "FTL")
  | some (.text "panic") => styled 1 (styled 31 "PNC")
  | _ => styled 1 "???"

/-- Whether a value is quoted on a terminal: it has a character that is not plain. -/
def needsQuotes (s : String) : Bool :=
  s.toList.any fun c => c.toNat < 0x20 || 0x7e < c.toNat || c == ' ' || c == '\\' || c == '"'

/-- How a value is shown on a terminal. -/
def consoleValue : Field → String
  | .text s => if needsQuotes s then Text.quote s else s
  | .number n => toString n
  | .absent => "null"

/-- How a field is shown on a terminal; errors stand out. -/
def consoleField (e : String × Field) : String :=
  let value := consoleValue e.2
  styled 36 (e.1 ++ "=") ++ if e.1 = "error" then styled 31 value else value

/-- The fields in the order a terminal shows them: the error first. -/
def consoleFields (r : Record) : List (String × Field) :=
  let fields := r.sortedEntries.filter fun e => e.1 ∉ ["level", "caller", "message"]
  match fields.find? (·.1 = "error") with
  | none => fields
  | some e => e :: fields.filter fun e => e.1 ≠ "error" ∧ e.1 ≠ ""

/-- How the origin of a record is shown on a terminal. -/
def callerLabel : Option Field → String
  | some (.text "") => ""
  | some (.text s) => styled 1 s ++ styled 36 " >" ++ " "
  | _ => ""

/-- The line a terminal shows for a record, without the time. -/
def console (r : Record) : String :=
  let message :=
    match r.entries.lookup "message" with
    | some m => valueText m
    | none => ""
  let fields := r.consoleFields.map consoleField
  levelLabel (r.entries.lookup "level") ++ " " ++ callerLabel (r.entries.lookup "caller") ++
    message ++
    String.join (fields.map (" " ++ ·))

end Record

end LeakCheck.Log
