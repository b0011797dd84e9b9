import LeakCheck.Json.Basic
import LeakCheck.Pattern.Expression
import LeakCheck.Text.CaseFold

/-!
# Exclusions

An exclusion names functions by their package, receiver and name. Each of the three is given by a
text, by an expression or not at all. `Exclusion.ofJson` reads one and refuses what it does not
understand.
-/

namespace LeakCheck.Config

/-- What one attribute of a function has to be. -/
inductive Matcher where
  /-- Anything. -/
  | anything
  /-- This text. -/
  | exactly (text : String)
  /-- A text that an expression matches. -/
  | matching (e : Pattern.Expression)
  deriving Inhabited

/-- Whether an attribute is as it has to be. -/
def Matcher.accepts : Matcher → String → Bool
  | .anything, _ => true
  | .exactly t, s => t == s
  | .matching e, s => e.search s.toList

/-- The functions that an entry of the configuration names. -/
structure Exclusion where
  /-- The path of the package. -/
  path : Matcher := .anything
  /-- The name of the receiver's type. -/
  receiver : Matcher := .anything
  /-- The name of the function. -/
  name : Matcher := .anything
  deriving Inhabited

/-- Whether an exclusion names a function. -/
def Exclusion.covers (e : Exclusion) (path receiver name : String) : Bool :=
  e.path.accepts path && e.receiver.accepts receiver && e.name.accepts name

/-! ## Reading -/

/-- The attributes of functions. -/
inductive Attribute where
  | path
  | receiver
  | name
  deriving DecidableEq, Repr, Inhabited

/-- The key that gives an attribute by a text. -/
def Attribute.key : Attribute → String
  | .path => "Package"
  | .receiver => "Receiver"
  | .name => "Method"

/-- The key that gives an attribute by an expression. -/
def Attribute.expressionKey (a : Attribute) : String := a.key ++ "RE"

/-- The attributes in the order they are checked. -/
def Attribute.all : List Attribute := [.path, .receiver, .name]

/-- What a key of an entry says. -/
inductive EntryKey where
  /-- An attribute by a text. -/
  | literal (a : Attribute)
  /-- An attribute by an expression. -/
  | expression (a : Attribute)
  deriving DecidableEq, Repr, Inhabited

/-- The meaning of a key. Case does not matter. -/
def EntryKey.ofText? (key : String) : Option EntryKey :=
  match Attribute.all.find? fun a => Text.equalFold a.key key with
  | some a => some (.literal a)
  | none =>
    (Attribute.all.find? fun a => Text.equalFold a.expressionKey key).map .expression

/-- Why an entry is refused. -/
inductive EntryError where
  /-- A key has no meaning. -/
  | unknownField (key : String)
  /-- A value has the wrong type. -/
  | mistyped
  /-- A text is not an expression. -/
  | expression (f : Pattern.Fault)
  /-- An attribute is given twice. -/
  | conflict (a : Attribute)
  deriving DecidableEq, Repr, Inhabited

/-- The attributes as an entry gives them. -/
structure Entry where
  /-- The texts. -/
  literal : Attribute → Option String := fun _ => none
  /-- The expressions. -/
  expression : Attribute → Option Pattern.Expression := fun _ => none
  deriving Inhabited

/-- Sets the value of an attribute. -/
def setAttribute {α : Type} (f : Attribute → α) (a : Attribute) (x : α) : Attribute → α :=
  fun b => if b = a then x else f b

/-- What comes of a member of an entry. -/
inductive Outcome where
  /-- The entry as it is now. -/
  | next (e : Entry)
  /-- A mistake that is noted; reading goes on. -/
  | note (e : EntryError)
  /-- A mistake that ends the reading. -/
  | stop (e : EntryError)

/-- Takes a member into an entry. Null means that the attribute is not given. -/
def Entry.take (e : Entry) (key : String) (value : Json) : Outcome :=
  match EntryKey.ofText? key with
  | none => .note (.unknownField key)
  | some (.literal a) =>
    match value with
    | .null => .next { e with literal := setAttribute e.literal a none }
    | .string s => .next { e with literal := setAttribute e.literal a (some s) }
    | _ => .note .mistyped
  | some (.expression a) =>
    match value with
    | .null => .next { e with expression := setAttribute e.expression a none }
    | .string s =>
      match Pattern.Expression.read s with
      | .ok x => .next { e with expression := setAttribute e.expression a (some x) }
      | .error f => .stop (.expression f)
    | _ => .stop .mistyped

/-- Takes the members into an entry. The first mistake that ends the reading is the result, and
else the first that was noted. -/
def Entry.takeAll (e : Entry) (noted : Option EntryError) :
    List (String × Json) → Except EntryError Entry
  | [] =>
    match noted with
    | none => .ok e
    | some err => .error err
  | (key, value) :: rest =>
    match e.take key value with
    | .next e => e.takeAll noted rest
    | .note err => e.takeAll (noted.or (some err)) rest
    | .stop err => .error err

/-- The first attribute that is given by a text and by an expression. -/
def Entry.conflict? (e : Entry) : Option Attribute :=
  Attribute.all.find? fun a => (e.literal a).isSome && (e.expression a).isSome

/-- What an attribute has to be. -/
def Entry.matcher (e : Entry) (a : Attribute) : Matcher :=
  match e.literal a, e.expression a with
  | some s, _ => .exactly s
  | none, some x => .matching x
  | none, none => .anything

/-- The exclusion of an entry. -/
def Entry.exclusion (e : Entry) : Exclusion :=
  ⟨e.matcher .path, e.matcher .receiver, e.matcher .name⟩

/-- Reads an exclusion. An entry that is null names all functions. -/
def Exclusion.ofJson : Json → Except EntryError Exclusion
  | .null => .ok {}
  | .object members =>
    match Entry.takeAll {} none members with
    | .error err => .error err
    | .ok e =>
      match e.conflict? with
      | some a => .error (.conflict a)
      | none => .ok e.exclusion
  | _ => .error .mistyped

end LeakCheck.Config
