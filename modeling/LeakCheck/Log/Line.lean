import LeakCheck.Log.Record

/-!
# Lines of log files

A log file holds a JSON object a line. `Record.line` is the line of a record.
-/

namespace LeakCheck.Log

/-- A character inside a JSON string. Control characters, quotes and backslashes are escaped. -/
def lineChar (c : Char) : List Char :=
  if c = '"' ∨ c = '\\' then ['\\', c]
  else if c = '\n' then ['\\', 'n']
  else if c = '\r' then ['\\', 'r']
  else if c = '\t' then ['\\', 't']
  else if c.toNat = 8 then ['\\', 'b']
  else if c.toNat = 12 then ['\\', 'f']
  else if c.toNat < 0x20 ∨ c.toNat = 0x7f then
    ['\\', 'u', '0', '0', Nat.digitChar (c.toNat / 16), Nat.digitChar (c.toNat % 16)]
  else [c]

/-- A JSON string. -/
def lineString (s : String) : String :=
  String.ofList (['"'] ++ s.toList.flatMap lineChar ++ ['"'])

/-- The value of a field as JSON. -/
def lineValue : Field → String
  | .text s => lineString s
  | .number n => toString n
  | .absent => "null"

/-- The line of a record. -/
def Record.line (r : Record) : String :=
  let members := r.entries.map fun e => lineString e.1 ++ ":" ++ lineValue e.2
  "\x7b" ++ Text.join "," members ++ "\x7d\n"

end LeakCheck.Log
