import LeakCheck.Fact.Basic
import LeakCheck.Graph.Reachable
import LeakCheck.Text.CaseFold

/-!
# Graphs as DOT text

A control-flow graph is drawn with a box for each vertex that shows the statement and the facts
that hold after it. Vertices with facts are red and the entry is bold.
-/

namespace LeakCheck.Dump

/-- Whether a character may start an identifier. -/
def isDotLetter (c : Char) : Bool :=
  ('a' ≤ c && c ≤ 'z') || ('A' ≤ c && c ≤ 'Z') || c == '_' || (0x80 ≤ c.toNat && c.toNat ≤ 0xff)

/-- Whether a character is a decimal digit. -/
def isDotDigit (c : Char) : Bool := '0' ≤ c && c ≤ '9'

/-- Whether characters form an identifier. -/
def isDotIdentifier : List Char → Bool
  | [] => false
  | c :: rest => isDotLetter c && rest.all fun c => isDotLetter c || isDotDigit c

/-- Whether characters form a number without its sign. -/
def isDotUnsigned : List Char → Bool
  | [] => false
  | '.' :: digits => !digits.isEmpty && digits.all isDotDigit
  | cs =>
    let whole := cs.takeWhile isDotDigit
    !whole.isEmpty &&
      match cs.dropWhile isDotDigit with
      | [] => true
      | '.' :: digits => digits.all isDotDigit
      | _ => false

/-- Whether characters form a number. -/
def isDotNumeral : List Char → Bool
  | '-' :: cs => isDotUnsigned cs
  | cs => isDotUnsigned cs

/-- Whether a text stands between angle brackets. -/
def isDotMarkup (cs : List Char) : Bool :=
  2 ≤ cs.length && cs.head? == some '<' && cs.getLast? == some '>'

/-- The words that are not identifiers. -/
def dotKeywords : List String := ["node", "edge", "graph", "digraph", "subgraph", "strict"]

/-- Whether a text can be written without quotes. -/
def isDotId (s : String) : Bool :=
  let cs := s.toList
  !(dotKeywords.any (Text.equalFold s)) &&
    (isDotIdentifier cs || isDotNumeral cs || Text.isQuotation s || isDotMarkup cs)

/-- A name or value as it stands in DOT text. -/
def dotId (s : String) : String := if isDotId s then s else Text.quote s

/-- The attributes of the box for a vertex. -/
def dotAttributes (g : Graph) (facts : FactSet) (n : Vertex) : List (String × String) :=
  [("label", Text.join "\n" (n.text :: facts.sorted.map Fact.text)), ("shape", "box")] ++
    (if facts.facts.isEmpty then [] else [("color", "red")]) ++
    (if n = g.entry then [("style", "bold")] else [])

/-- The lines that define the box for the vertex at the place `i`. -/
def dotNode (g : Graph) (facts : Vertex → FactSet) (i : Nat) (n : Vertex) : List String :=
  ["\tn" ++ toString i ++ " ["] ++
    (dotAttributes g (facts n) n).map (fun a => "\t\t" ++ a.1 ++ "=" ++ dotId a.2) ++ ["\t];"]

/-- The edges of the view, by source and then by target. -/
def sortedEdges (g : Graph) : List (Nat × Nat) :=
  g.viewEdges.mergeSort fun a b => a.1 < b.1 || (a.1 == b.1 && a.2 ≤ b.2)

/-- The refusal to draw a graph that lists the absent node. -/
structure AbsentNode where
  deriving DecidableEq, Repr, Inhabited

/-- The wording of the refusal. -/
def AbsentNode.message (_ : AbsentNode) : String :=
  "runtime error: invalid memory address or nil pointer dereference"

/-- The DOT text of a graph with the facts that hold after its vertices. -/
def dotText (name : String) (g : Graph) (facts : Vertex → FactSet) : String :=
  let title := if name = "" then "" else dotId name ++ " "
  let boxes := (g.nodes.zipIdx.map fun (n, i) => dotNode g facts i n).flatten
  let edges := (sortedEdges g).map fun e =>
    "\tn" ++ toString e.1 ++ " -> n" ++ toString e.2 ++ ";"
  Text.join "\n" (
    ["strict digraph " ++ title ++ "\x7b"] ++
    (if boxes.isEmpty then [] else "\t// Node definitions." :: boxes) ++
    (if edges.isEmpty then [] else ["", "\t// Edge definitions."] ++ edges) ++
    ["\x7d"])

/-- The DOT text of a graph whose vertices are all nodes. -/
def dot (name : String) (g : Graph) (facts : Vertex → FactSet) : Except AbsentNode String :=
  if none ∈ g.nodes then .error ⟨⟩ else .ok (dotText name g facts)

end LeakCheck.Dump
