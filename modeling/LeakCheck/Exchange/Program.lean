import LeakCheck.Batch.Program
import LeakCheck.Json.Access

/-!
# The exchange form of programs

A front end hands a program over as JSON: its types, functions and positions, the source that
comments are looked for in, and what came of loading it. Keys that are not there mean that a part is
not there.
-/

namespace LeakCheck.Exchange

open Ssa
open Suppression (Source SourceFile SyntaxNode)

/-- A type. -/
def typeInfo (j : Json) : TypeInfo where
  text := j.text "s"
  declared :=
    match j.list "obj" with
    | [path, name] => some ⟨if path.isNull then none else some path.toText, name.toText⟩
    | _ => none
  element := j.nat? "ptr"
  fields := (j.get? "struct").map fun fields => fields.items.map Json.toNat

/-- The types and fields of a program. -/
def types (j : Json) : Types :=
  ⟨((j.list "types").map typeInfo).toArray, (j.texts "fields").toArray⟩

/-- What a call calls. -/
def callee (j : Json) : Callee :=
  match j.get? "method" with
  | some name => .method name.toText
  | none =>
    match j.texts "callee" with
    | [name] => .known name none
    | [name, origin] => .known name (some origin)
    | _ => .dynamic

/-- What an instruction does. -/
def operation (j : Json) : Operation :=
  match j.text "k" with
  | "Call" =>
    .call ⟨j.nat "results", (j.get "variadic").toBool, j.nats "args", j.nat "value", callee j⟩
  | "Store" => .store (j.nat "addr") (j.nat "x")
  | "UnOp" => .unary (j.text "op") (j.nat "x")
  | "BinOp" => .binary (j.text "op")
  | "Field" => .field (j.nat "xtype") (j.nat "field")
  | "FieldAddr" => .fieldAddress (j.nat "xtype") (j.nat "field")
  | "Phi" => .phi (j.nats "edges")
  | "MakeInterface" => .passOn (j.nat "x")
  | "ChangeType" => .passOn (j.nat "x")
  | "ChangeInterface" => .passOn (j.nat "x")
  | "Extract" => .passOn (j.nat "x")
  | "Slice" => .slice (j.nat "x")
  | "Return" => .giveBack (j.nats "results")
  | "Alloc" => .alloc (j.text "comment") (j.nats "refs")
  | "IndexAddr" => .elementAddress (j.nats "refs")
  | "Convert" => .convert
  | "TypeAssert" => .typeAssert
  | "Panic" => .panic
  | _ => .other

/-- An instruction. -/
def instr (j : Json) : Instr where
  form := j.text "k"
  text := j.text "t"
  pos := j.int "p"
  result := if (operation j).computes then some (j.nat "v") else j.nat? "v"
  operation := operation j
  defines := by
    intro h
    rw [if_pos h]
    rfl

/-- A block. -/
def block (j : Json) : Block := ⟨j.text "comment", (j.list "instrs").map instr, j.nats "succs"⟩

/-- What a value is. -/
def valueKind (j : Json) : ValueKind :=
  match j.text "k" with
  | "Const" =>
    .constant <|
      match j.get "c" with
      | .string s => some s
      | _ => none
  | "Builtin" => .builtin
  | "Global" => .global
  | _ => .other

/-- A function. -/
def function (j : Json) : Function where
  text := j.text "str"
  name := j.text "name"
  pos := j.int "pos"
  synthetic := j.text "synthetic"
  typeParams := j.nat "tparams"
  parent := j.nat? "parent"
  origin := j.nat? "origin"
  path := (j.get? "pkg").map Json.toText
  receiver := j.nat? "recv"
  recover := j.nat? "recover"
  blocks := (j.list "blocks").map block
  values := ((j.list "vals").map fun v => ⟨v.text "n", valueKind v⟩).toArray

/-- A list under keys that are integers. -/
def positions (j : Json) : List (Pos × Json) :=
  j.members.filterMap fun (key, value) => (Text.readInt? key).map (·, value)

/-- A program. -/
def program (j : Json) : Program where
  types := types j
  functions := ((j.list "funcs").map function).toArray
  places := (positions (j.get "pos")).map fun (pos, place) => (pos, place.toText)

/-- A node of the source. -/
def sourceNode (j : Json) : SyntaxNode :=
  ⟨j.text "k", j.int "pos", j.int "end", (j.get "stmt").toBool, j.nat? "fun", j.nat? "sel"⟩

/-- The groups of comments that belong to a node. -/
def comments? (j : Json) : Option (Nat × List (List String)) :=
  match j.items with
  | [node, groups] => some (node.toNat, groups.items.map fun g => g.items.map Json.toText)
  | _ => none

/-- A file of the source. -/
def sourceFile (j : Json) : SourceFile where
  pos := j.int "pos"
  stop := j.int "end"
  comments := (j.list "comments").filterMap comments?
  paths := (positions (j.get "paths")).map fun (pos, path) => (pos, path.items.map Json.toNat)

/-- The source of a package. -/
def source (j : Json) : Source :=
  ⟨(j.list "files").map sourceFile, ((j.list "nodes").map sourceNode).toArray⟩

/-- What came of loading packages. -/
def loading (j : Json) : Batch.Loading where
  failure := (j.get? "load_error").map Json.toText
  roots := j.nat "roots"
  errors := j.texts "package_errors"
  loaded := {
    program := program j
    packages := (j.texts "packages").map fun path =>
      { path, source := source ((j.get "suppression").get path) }
    functions := j.nats "all_funcs" }

end LeakCheck.Exchange
