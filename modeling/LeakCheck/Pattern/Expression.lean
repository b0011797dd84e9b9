import LeakCheck.Json.Reader
import LeakCheck.Pattern.Parser
import LeakCheck.Pattern.Program
import LeakCheck.Text.Quoted

/-!
# Expressions in use

`Expression.read` makes an expression from its written form. A `Holder` is a place for an
expression that may be filled from JSON text; while it has none, it matches every text.
-/

namespace LeakCheck.Pattern

/-- Makes an expression from its written form. -/
def Expression.read (source : String) : Except Fault Expression :=
  (Regex.parse source.toList).map fun r => ⟨source, r.program.1, r.program.2⟩

/-- The message of an expression that was taken to be well formed and is not. -/
def Fault.rejection (source : String) (f : Fault) : String :=
  let shown := if Text.canBackquote source then "\x60" ++ source ++ "\x60" else Text.quote source
  "regexp: Compile(" ++ shown ++ "): " ++ f.message

/-- Whether a text matches an expression, if there is one. -/
def matchesOptional (e : Option Expression) (text : List Char) : Bool := e.all (·.search text)

/-- A place for an expression. -/
inductive Holder where
  /-- There is no place. -/
  | missing
  /-- The place is empty. -/
  | vacant
  /-- The place is filled. -/
  | filled (e : Expression)
  deriving Inhabited

namespace Holder

/-- The expression that a place holds. -/
def expression? : Holder → Option Expression
  | .filled e => some e
  | _ => none

/-- The written form of what a place holds. -/
def text (h : Holder) : String := (h.expression?.map (·.source)).getD ""

/-- Whether a text matches. -/
def accepts (h : Holder) (text : List Char) : Bool := matchesOptional h.expression? text

/-- Whether there is no place. -/
def isMissing : Holder → Bool
  | .missing => true
  | _ => false

/-- Why a place was not filled. -/
inductive FillError where
  /-- The text is not JSON, or not a string. -/
  | json
  /-- The string is not an expression. -/
  | fault (f : Fault)
  /-- There is no place. -/
  | noPlace
  deriving DecidableEq, Repr, Inhabited

/-- The wording of the refusal to fill a place that there is not. -/
def noPlaceMessage : String := "runtime error: invalid memory address or nil pointer dereference"

/-- The string that a JSON value stands for; null stands for the empty one. -/
def sourceOf : Json → Option String
  | .string s => some s
  | .null => some ""
  | _ => none

/-- Fills the place with the expression that a JSON text gives. -/
def fill (h : Holder) (json : List Char) : Except FillError Holder :=
  match (Json.parse? json).bind sourceOf with
  | none => .error .json
  | some source =>
    match Expression.read source with
    | .error f => .error (.fault f)
    | .ok e => if h.isMissing then .error .noPlace else .ok (.filled e)

/-- Makes a place where there is none. -/
def provide : Holder → Holder
  | .missing => .vacant
  | h => h

/-- Sets the place from a JSON text: null takes it away, and anything else fills it, after making
it if there is none. The place that is left is given even if filling fails. -/
def assign (h : Holder) (json : List Char) : Option FillError × Holder :=
  match Json.parse? json with
  | none => (some .json, h)
  | some .null => (none, .missing)
  | some _ =>
    match h.provide.fill json with
    | .ok h => (none, h)
    | .error e => (some e, h.provide)

end Holder

end LeakCheck.Pattern
