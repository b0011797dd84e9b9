import LeakCheck.Text.Order
import LeakCheck.Var

/-!
# Statements

A statement is described by the shape that matters to the propagation of secrets: what it defines,
what it uses and what it lets escape.
-/

namespace LeakCheck

/-- A value that a statement uses. -/
inductive Value where
  /-- No value at all; it is treated as an unknown one. -/
  | absent
  /-- A call whose target is chosen when it runs, without its receiver. -/
  | virtualCall (method : String) (args : List Value)
  /-- A call whose target is fixed. -/
  | staticCall (method : String) (args : List Value)
  /-- A literal. -/
  | constant (text : String)
  /-- The value of a variable. -/
  | read (v : Var)
  /-- A value that is not looked into, such as arithmetic. -/
  | unknown (what : String)
  deriving Repr, Inhabited

/-- A statement. -/
inductive Statement where
  /-- No statement at all; it is treated as `other`. -/
  | absent
  /-- Defines variables from values; only the first definition counts. -/
  | assign (defs : List Var) (uses : List Value)
  /-- A call whose result, if any, is not assigned. -/
  | invoke (call : Value)
  /-- Hands values to the caller. -/
  | giveBack (results : List Value)
  /-- A statement that neither defines a variable nor lets a value escape. -/
  | other
  deriving Repr, Inhabited

mutual

/-- How a value is shown as an operand. -/
def Value.operandText : Value → String
  | .absent => "?"
  | .virtualCall method args => "virtual " ++ method ++ "(" ++ Value.listText args ++ ")"
  | .staticCall method args => "static " ++ method ++ "(" ++ Value.listText args ++ ")"
  | .constant text => text
  | .read v => v.name
  | .unknown what => "?" ++ what

/-- How a list of operands is shown. -/
def Value.listText : List Value → String
  | [] => ""
  | [v] => v.operandText
  | v :: rest => v.operandText ++ ", " ++ Value.listText rest

end

/-- How a value is shown on its own. -/
def Value.text : Value → String
  | .absent => "<nil>"
  | v => v.operandText

/-- How a statement is shown. -/
def Statement.text : Statement → String
  | .absent => "<nil>"
  | .assign defs uses => Text.join ", " (defs.map Var.name) ++ " := " ++ Value.listText uses
  | .invoke call => "invoke " ++ call.text
  | .giveBack results => "return " ++ Value.listText results
  | .other => "other"

end LeakCheck
