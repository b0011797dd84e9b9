import LeakCheck.Graph.Adjacency
import LeakCheck.Proofs.Graph.WellFormed
import LeakCheck.Proofs.List.Distinct

/-!
# Graphs that were built

An adjacency keeps three things in step: the list of its vertices and two tables of its edges, of
which only the first is asked whether an edge is new. `Records` says what they hold after a sequence
of steps, in terms of the steps alone. A step keeps it (`Records.apply`), since the two tables hold
the same edges (`Records.mem_succs`, `Records.mem_preds`), and so does every sequence of steps
(`records_built`). The rest is read off it: a graph that was built is well formed
(`Records.wellFormed`), and what is listed stays in its place (`Records.prefixes`).
-/

namespace LeakCheck.Adjacency

/-! ## The tables -/

section
variable (a : Adjacency) (n source target : Vertex)

theorem addNode_eq :
    a.addNode n = { a with nodes := if n ∈ a.nodes then a.nodes else a.nodes ++ [n] } := by
  unfold addNode
  split
  · rfl
  · rfl

theorem nodes_addNode :
    (a.addNode n).nodes = if n ∈ a.nodes then a.nodes else a.nodes ++ [n] := by
  rw [addNode_eq]

@[simp] theorem entry_addNode : (a.addNode n).entry = a.entry := by
  rw [addNode_eq]

@[simp] theorem succs_addNode : (a.addNode n).succs = a.succs := by
  rw [addNode_eq]
  rfl

@[simp] theorem preds_addNode : (a.addNode n).preds = a.preds := by
  rw [addNode_eq]
  rfl

@[simp] theorem succs_link :
    (a.link source target).succs n =
      if n = source then a.succs source ++ [target] else a.succs n :=
  Assignment.get_set ..

@[simp] theorem preds_link :
    (a.link source target).preds n =
      if n = target then a.preds target ++ [source] else a.preds n :=
  Assignment.get_set ..

theorem nodes_addEdge :
    (a.addEdge source target).nodes = ((a.addNode source).addNode target).nodes := by
  simp only [addEdge]
  split
  · rfl
  · rfl

@[simp] theorem entry_addEdge : (a.addEdge source target).entry = a.entry := by
  simp only [addEdge]
  split
  · simp
  · simp [link]

theorem succs_addEdge :
    (a.addEdge source target).succs n =
      if n = source ∧ target ∉ a.succs source then a.succs n ++ [target] else a.succs n := by
  simp only [addEdge, succs_addNode]
  by_cases hold : target ∈ a.succs source
  · simp [hold]
  · by_cases hn : n = source
    · simp [hold, hn]
    · simp [hold, hn]

/-- The second table follows the first one. -/
theorem preds_addEdge :
    (a.addEdge source target).preds n =
      if n = target ∧ target ∉ a.succs source then a.preds n ++ [source] else a.preds n := by
  simp only [addEdge, succs_addNode]
  by_cases hold : target ∈ a.succs source
  · simp [hold]
  · by_cases hn : n = target
    · simp [hold, hn]
    · simp [hold, hn]

end

/-! ## What the steps say -/

/-- The vertices that a step mentions. -/
def Change.mentions : Change → List Vertex
  | .node n => [n]
  | .edge source target => [source, target]

/-- Where a step adds an edge to, if that leaves `n`. -/
def Change.target? (n : Vertex) : Change → Option Vertex
  | .node _ => none
  | .edge source target => if source = n then some target else none

/-- Where a step adds an edge from, if that leads to `n`. -/
def Change.source? (n : Vertex) : Change → Option Vertex
  | .node _ => none
  | .edge source target => if target = n then some source else none

theorem Change.target?_eq_some {n target : Vertex} {c : Change} :
    c.target? n = some target ↔ c = .edge n target := by
  cases c with
  | node m => simp [target?]
  | edge s t => simp [target?]

theorem Change.source?_eq_some {n source : Vertex} {c : Change} :
    c.source? n = some source ↔ c = .edge source n := by
  cases c with
  | node m => simp [source?]
  | edge s t => simp [source?, and_comm]

/-- What is picked from steps, in the order it first occurs. -/
def picked (pick : Change → Option Vertex) (changes : List Change) : List Vertex :=
  (changes.filterMap pick).eraseDups

/-- The entry and the vertices that steps mention, in the order of their first mention. -/
def mentioned (entry : Vertex) (changes : List Change) : List Vertex :=
  (entry :: changes.flatMap Change.mentions).eraseDups

section
variable {pick : Change → Option Vertex} {changes : List Change} {c : Change} {entry n : Vertex}

theorem mem_picked : n ∈ picked pick changes ↔ ∃ c ∈ changes, pick c = some n := by
  rw [picked, List.mem_eraseDups, List.mem_filterMap]

theorem mem_mentioned :
    n ∈ mentioned entry changes ↔ n = entry ∨ ∃ c ∈ changes, n ∈ c.mentions := by
  rw [mentioned, List.mem_eraseDups, List.mem_cons, List.mem_flatMap]

theorem picked_append (later : List Change) :
    picked pick (changes ++ later) =
      (changes.filterMap pick ++ later.filterMap pick).eraseDups := by
  rw [picked, List.filterMap_append]

theorem mentioned_append (later : List Change) :
    mentioned entry (changes ++ later) =
      (entry :: changes.flatMap Change.mentions ++ later.flatMap Change.mentions).eraseDups := by
  rw [mentioned, List.flatMap_append, List.cons_append]

theorem picked_concat_none (h : pick c = none) :
    picked pick (changes ++ [c]) = picked pick changes := by
  rw [picked_append, List.filterMap_cons_none h, List.filterMap_nil, List.append_nil, picked]

theorem picked_concat_some (h : pick c = some n) :
    picked pick (changes ++ [c]) =
      if n ∈ picked pick changes then picked pick changes else picked pick changes ++ [n] := by
  rw [picked_append, List.filterMap_cons_some h, List.filterMap_nil, eraseDups_concat]
  simp only [picked, List.mem_eraseDups]

end

/-! ## Every sequence of steps -/

/-- What an adjacency holds that was built from `entry` by `changes`. -/
structure Records (entry : Vertex) (changes : List Change) (a : Adjacency) : Prop where
  entry_eq : a.entry = entry
  nodes_eq : a.nodes = mentioned entry changes
  succs_eq : ∀ n, a.succs n = picked (Change.target? n) changes
  preds_eq : ∀ n, a.preds n = picked (Change.source? n) changes

theorem nodes_addNode_eraseDups {a : Adjacency} {items : List Vertex}
    (h : a.nodes = items.eraseDups) (n : Vertex) :
    (a.addNode n).nodes = (items ++ [n]).eraseDups := by
  rw [nodes_addNode, h, eraseDups_concat]
  simp only [List.mem_eraseDups]

namespace Records

section
variable {entry : Vertex} {changes : List Change} {a : Adjacency} (h : Records entry changes a)
include h

theorem mem_succs {source target : Vertex} :
    target ∈ a.succs source ↔ .edge source target ∈ changes := by
  rw [h.succs_eq, mem_picked]
  simp only [Change.target?_eq_some, exists_eq_right]

theorem mem_preds {source target : Vertex} :
    source ∈ a.preds target ↔ .edge source target ∈ changes := by
  rw [h.preds_eq, mem_picked]
  simp only [Change.source?_eq_some, exists_eq_right]

theorem addNode (n : Vertex) : Records entry (changes ++ [.node n]) (a.addNode n) where
  entry_eq := by rw [entry_addNode, h.entry_eq]
  nodes_eq := by
    rw [nodes_addNode_eraseDups h.nodes_eq, mentioned_append]
    rfl
  succs_eq m := by rw [succs_addNode, h.succs_eq, picked_concat_none rfl]
  preds_eq m := by rw [preds_addNode, h.preds_eq, picked_concat_none rfl]

theorem addEdge (source target : Vertex) :
    Records entry (changes ++ [.edge source target]) (a.addEdge source target) where
  entry_eq := by rw [entry_addEdge, h.entry_eq]
  nodes_eq := by
    have hsource := nodes_addNode_eraseDups h.nodes_eq source
    rw [nodes_addEdge, nodes_addNode_eraseDups hsource, mentioned_append, List.append_assoc]
    rfl
  succs_eq m := by
    rw [succs_addEdge]
    by_cases hm : m = source
    · subst hm
      rw [picked_concat_some (Change.target?_eq_some.2 rfl), ← h.succs_eq]
      by_cases hold : target ∈ a.succs m
      · simp [hold]
      · simp [hold]
    · rw [picked_concat_none (by simp [Change.target?, Ne.symm hm]), if_neg (by simp [hm]),
        h.succs_eq]
  preds_eq m := by
    rw [preds_addEdge]
    by_cases hm : m = target
    · subst hm
      rw [picked_concat_some (Change.source?_eq_some.2 rfl), ← h.preds_eq]
      -- the first table tells whether the edge is new to the second one
      have hsame : m ∈ a.succs source ↔ source ∈ a.preds m := h.mem_succs.trans h.mem_preds.symm
      by_cases hold : source ∈ a.preds m
      · simp [hsame, hold]
      · simp [hsame, hold]
    · rw [picked_concat_none (by simp [Change.source?, Ne.symm hm]), if_neg (by simp [hm]),
        h.preds_eq]

theorem apply (c : Change) : Records entry (changes ++ [c]) (a.apply c) := by
  cases c with
  | node n => exact h.addNode n
  | edge source target => exact h.addEdge source target

/-- Further steps are recorded after those before. -/
theorem foldl (later : List Change) :
    Records entry (changes ++ later) (later.foldl Adjacency.apply a) := by
  induction later generalizing changes a with
  | nil => simpa using h
  | cons c later ih =>
    have hrest := ih (h.apply c)
    rwa [List.append_assoc, List.singleton_append] at hrest

theorem entry_mem : entry ∈ a.nodes := by
  rw [h.nodes_eq]
  exact mem_mentioned.2 (.inl rfl)

theorem ends_mem {source target : Vertex} (hc : .edge source target ∈ changes) :
    source ∈ a.nodes ∧ target ∈ a.nodes := by
  rw [h.nodes_eq, mem_mentioned, mem_mentioned]
  exact ⟨.inr ⟨_, hc, by simp [Change.mentions]⟩, .inr ⟨_, hc, by simp [Change.mentions]⟩⟩

/-- A graph that was built from a node is well formed. -/
theorem wellFormed (hentry : entry ≠ none) : a.toGraph.WellFormed where
  nodes_ne_nil := List.ne_nil_of_mem h.entry_mem
  nodup := by
    show a.nodes.Nodup
    rw [h.nodes_eq]
    exact nodup_eraseDups _
  entry_ne_none := by
    show a.entry ≠ none
    rw [h.entry_eq]
    exact hentry
  entry_mem := by
    show a.entry ∈ a.nodes
    rw [h.entry_eq]
    exact h.entry_mem
  succs_mem n _ s hs := (h.ends_mem (h.mem_succs.1 hs)).2
  preds_mem n _ p hp := (h.ends_mem (h.mem_preds.1 hp)).1
  mem_succs_iff n _ m _ := h.mem_succs.trans h.mem_preds.symm

/-- Whatever is added later, the lists begin with what they were. -/
theorem prefixes {later : List Change} {b : Adjacency} (hb : Records entry (changes ++ later) b) :
    a.nodes <+: b.nodes ∧ ∀ n, a.succs n <+: b.succs n ∧ a.preds n <+: b.preds n := by
  refine ⟨?_, fun n => ⟨?_, ?_⟩⟩
  · rw [h.nodes_eq, hb.nodes_eq, mentioned_append]
    exact eraseDups_prefix _ _
  · rw [h.succs_eq, hb.succs_eq, picked_append]
    exact eraseDups_prefix _ _
  · rw [h.preds_eq, hb.preds_eq, picked_append]
    exact eraseDups_prefix _ _

end

end Records

/-- What is built by a sequence of steps. -/
def built (entry : Vertex) (changes : List Change) : Adjacency :=
  changes.foldl apply (.ofEntry entry)

theorem records_built (entry : Vertex) (changes : List Change) :
    Records entry changes (built entry changes) := by
  have hstart : Records entry [] (.ofEntry entry) :=
    ⟨rfl, rfl, fun _ => rfl, fun _ => rfl⟩
  exact hstart.foldl changes

/-- **A graph that was built is a valid graph of exactly the added edges.** The vertices are the
entry and all that were mentioned, the successors of a vertex the targets of the edges added from
it, and the predecessors the sources of the edges added to it; each list in the order of the first
occurrence, without repetitions, and a beginning of what it is after any further steps. -/
theorem built_exact (entry : Node) (changes : List Change) :
    let a := built (some entry) changes
    a.toGraph.defect? = none ∧ a.entry = some entry ∧
      a.nodes = (some entry :: changes.flatMap Change.mentions).eraseDups ∧
      (∀ n, a.succs n = (changes.filterMap (Change.target? n)).eraseDups) ∧
      (∀ n, a.preds n = (changes.filterMap (Change.source? n)).eraseDups) ∧
      ∀ later,
        let b := built (some entry) (changes ++ later)
        a.nodes <+: b.nodes ∧ ∀ n, a.succs n <+: b.succs n ∧ a.preds n <+: b.preds n := by
  intro a
  have h : Records (some entry) changes a := records_built (some entry) changes
  exact ⟨(h.wellFormed nofun).defect?_eq_none, h.entry_eq, h.nodes_eq, h.succs_eq, h.preds_eq,
    fun later => h.prefixes (records_built (some entry) (changes ++ later))⟩

end LeakCheck.Adjacency
