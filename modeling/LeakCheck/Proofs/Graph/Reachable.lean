import LeakCheck.Graph.Reachable
import LeakCheck.Proofs.Graph.WellFormed
import Mathlib.Data.List.Chain
import Mathlib.Logic.Relation

/-!
# Reachability

`Graph.reachable` searches a view of the graph by numbered places, without self edges and edges
that lead outside. Here it is compared with paths in the graph itself: `mem_reachable_iff` holds of
every graph, whether well formed or not, for paths through listed vertices, and
`WellFormed.mem_reachable_iff` says that in a well-formed graph these are all paths. `PathTo` gives
paths with the vertices that they pass, and `reachable_exact` is the comparison in terms of them.

The search is bounded by fuel. `Walks` is the same search without it, and everything that is said
about what is found is proved for `Walks`; `walks_walk` is the only place where fuel is counted.
-/

namespace LeakCheck.Graph

/-- There is an edge from `m` to `n`. -/
def Edge (g : Graph) (m n : Vertex) : Prop := n ∈ g.succs m

instance (g : Graph) (m n : Vertex) : Decidable (g.Edge m n) :=
  inferInstanceAs (Decidable (n ∈ g.succs m))

/-- Some path leads from the entry to `n`. -/
def Reached (g : Graph) (n : Vertex) : Prop := Relation.ReflTransGen g.Edge g.entry n

/-- There is an edge from `m` to `n`, and `n` is listed. -/
def ListedEdge (g : Graph) (m n : Vertex) : Prop := n ∈ g.succs m ∧ n ∈ g.nodes

/-! ## Places -/

/-- The last place of a vertex is one where it stands. -/
theorem getElem?_of_lastPlace? {n : Vertex} {nodes : List Vertex} {i : Nat}
    (h : lastPlace? n nodes = some i) : nodes[i]? = some n := by
  induction nodes generalizing i with
  | nil => cases h
  | cons m rest ih =>
    rw [lastPlace?] at h
    split at h
    · next j hj =>
      cases h
      exact ih hj
    · split at h
      · next hm =>
        cases h
        rw [hm]
        rfl
      · cases h

/-- A vertex that is listed has a last place. -/
theorem exists_lastPlace? {n : Vertex} {nodes : List Vertex} (h : n ∈ nodes) :
    ∃ i, lastPlace? n nodes = some i := by
  induction nodes with
  | nil => cases h
  | cons m rest ih =>
    rw [lastPlace?]
    split
    · exact ⟨_, rfl⟩
    · next hnone =>
      rcases List.mem_cons.1 h with rfl | hrest
      · exact ⟨0, by simp⟩
      · obtain ⟨i, hi⟩ := ih hrest
        rw [hnone] at hi
        cases hi

/-- Only listed vertices stand somewhere. -/
theorem mem_of_place? {g : Graph} {n : Vertex} {i : Nat} (h : g.place? n = some i) :
    n ∈ g.nodes :=
  List.mem_of_getElem? (getElem?_of_lastPlace? h)

/-- No two vertices stand at one place. -/
theorem place?_inj {g : Graph} {m n : Vertex} {i : Nat} (hm : g.place? m = some i)
    (hn : g.place? n = some i) : m = n := by
  have h := (getElem?_of_lastPlace? hm).symm.trans (getElem?_of_lastPlace? hn)
  exact Option.some.inj h

/-- The edges of the view that leave the place of a vertex are its edges to vertices that stand
elsewhere. -/
theorem mem_viewEdgesFrom {g : Graph} {m : Vertex} {i : Nat} {e : Nat × Nat} :
    e ∈ g.viewEdgesFrom m i ↔
      ∃ n j, n ∈ g.succs m ∧ g.place? n = some j ∧ j ≠ i ∧ e = (i, j) := by
  rw [viewEdgesFrom, List.mem_filterMap]
  constructor
  · rintro ⟨n, hn, he⟩
    split at he
    · next j hj =>
      split at he
      · cases he
      · next hne => exact ⟨n, j, hn, hj, hne, (Option.some.inj he).symm⟩
    · cases he
  · rintro ⟨n, j, hn, hj, hne, rfl⟩
    exact ⟨n, hn, by simp [hj, hne]⟩

/-- The edges of the view are the edges between vertices that stand at different places. -/
theorem mem_viewEdges {g : Graph} {i j : Nat} :
    (i, j) ∈ g.viewEdges ↔
      ∃ m n, n ∈ g.succs m ∧ g.place? m = some i ∧ g.place? n = some j ∧ j ≠ i := by
  rw [viewEdges, List.mem_eraseDups, List.mem_flatMap]
  constructor
  · rintro ⟨m, -, he⟩
    split at he
    · next i' hi' =>
      obtain ⟨n, j', hn, hj', hne, heq⟩ := mem_viewEdgesFrom.1 he
      cases heq
      exact ⟨m, n, hn, hi', hj', hne⟩
    · cases he
  · rintro ⟨m, n, hn, hi, hj, hne⟩
    refine ⟨m, mem_of_place? hi, ?_⟩
    rw [hi]
    exact mem_viewEdgesFrom.2 ⟨n, j, hn, hj, hne, rfl⟩

/-! ## The walk -/

/-- The places that the edges from a place lead to. -/
def nextPlaces (edges : List (Nat × Nat)) (i : Nat) : List Nat :=
  edges.filterMap fun e => if e.1 = i then some e.2 else none

theorem mem_nextPlaces {edges : List (Nat × Nat)} {i j : Nat} :
    j ∈ nextPlaces edges i ↔ (i, j) ∈ edges := by
  rw [nextPlaces, List.mem_filterMap]
  constructor
  · rintro ⟨⟨a, b⟩, he, h⟩
    split at h
    · next ha =>
      cases ha
      cases h
      exact he
    · cases h
  · intro he
    exact ⟨(i, j), he, by simp⟩

/-- The walk without a bound on its rounds comes to an end, having found `found`. -/
inductive Walks (edges : List (Nat × Nat)) : (seen pending found : List Nat) → Prop
  | done {seen : List Nat} : Walks edges seen [] seen
  | skip {seen pending found : List Nat} {i : Nat} (hi : i ∈ seen)
      (h : Walks edges seen pending found) : Walks edges seen (i :: pending) found
  | visit {seen pending found : List Nat} {i : Nat} (hi : i ∉ seen)
      (h : Walks edges (i :: seen) (nextPlaces edges i ++ pending) found) :
      Walks edges seen (i :: pending) found

section
variable {edges : List (Nat × Nat)} {seen pending found found' : List Nat}

theorem Walks.unique (h : Walks edges seen pending found) (h' : Walks edges seen pending found') :
    found = found' := by
  induction h with
  | done =>
    cases h'
    rfl
  | skip hi _ ih =>
    cases h' with
    | skip _ h' => exact ih h'
    | visit hi' _ => exact absurd hi hi'
  | visit hi _ ih =>
    cases h' with
    | skip hi' _ => exact absurd hi' hi
    | visit _ h' => exact ih h'

/-- Visiting a point uses up its edges: those of unseen points are its own and the rest. -/
theorem length_unseen_edges {i : Nat} (hi : i ∉ seen) :
    (nextPlaces edges i).length + (edges.filter fun e => e.1 ∉ i :: seen).length =
      (edges.filter fun e => e.1 ∉ seen).length := by
  unfold nextPlaces
  induction edges with
  | nil => rfl
  | cons e rest ih =>
    by_cases he : e.1 = i
    · simp [he, hi] at ih ⊢
      omega
    · by_cases hs : e.1 ∈ seen
      · simp [he, hs] at ih ⊢
        omega
      · simp [he, hs] at ih ⊢
        omega

/-- **The walk ends within its bound**, if that allows a round for each waiting point and each edge
of an unseen one. -/
theorem walks_walk {fuel : Nat}
    (hfuel : pending.length + (edges.filter fun e => e.1 ∉ seen).length ≤ fuel) :
    Walks edges seen pending (walk edges fuel seen pending) := by
  fun_induction walk edges fuel seen pending with
  | case1 pending seen =>
    have hnil : pending = [] := List.eq_nil_of_length_eq_zero (by omega)
    subst hnil
    exact .done
  | case2 => exact .done
  | case3 fuel seen i pending hi ih =>
    rw [List.length_cons] at hfuel
    exact .skip hi (ih (by omega))
  | case4 fuel seen i pending hi next ih =>
    refine .visit hi (ih ?_)
    have hcount : next.length + (edges.filter fun e => e.1 ∉ i :: seen).length =
      (edges.filter fun e => e.1 ∉ seen).length := length_unseen_edges hi
    rw [List.length_cons] at hfuel
    rw [List.length_append]
    omega

/-- The walk finds nothing outside a set that holds what it starts from and is closed under the
edges. -/
theorem Walks.sound (h : Walks edges seen pending found) {P : Nat → Prop}
    (hP : ∀ i j, (i, j) ∈ edges → P i → P j) (hs : ∀ i ∈ seen, P i) (hp : ∀ i ∈ pending, P i) :
    ∀ i ∈ found, P i := by
  induction h with
  | done => exact hs
  | @skip seen pending found i hi _ ih =>
    exact ih hs fun j hj => hp j (List.mem_cons_of_mem i hj)
  | @visit seen pending found i hi _ ih =>
    have hPi : P i := hp i (by simp)
    refine ih ?_ ?_
    · intro j hj
      rcases List.mem_cons.1 hj with rfl | hj
      · exact hPi
      · exact hs j hj
    · intro j hj
      rcases List.mem_append.1 hj with hnext | hj
      · exact hP i j (mem_nextPlaces.1 hnext) hPi
      · exact hp j (List.mem_cons_of_mem i hj)

/-- **The walk ends with a closed set.** What is found holds all that was seen or waited, and every
edge out of it leads back into it. The invariant is that an edge out of a seen point leads to one
seen or waiting. -/
theorem Walks.closed (h : Walks edges seen pending found)
    (hinv : ∀ i j, (i, j) ∈ edges → i ∈ seen → j ∈ seen ∨ j ∈ pending) :
    (∀ i, i ∈ seen ∨ i ∈ pending → i ∈ found) ∧
      ∀ i j, (i, j) ∈ edges → i ∈ found → j ∈ found := by
  induction h with
  | done =>
    refine ⟨fun i hi => hi.elim id (by simp), fun i j he hi => ?_⟩
    exact (hinv i j he hi).elim id (by simp)
  | @skip seen pending found i hi _ ih =>
    have hdrop : ∀ j, j ∈ seen ∨ j ∈ i :: pending → j ∈ seen ∨ j ∈ pending := by
      rintro j (hj | hj)
      · exact .inl hj
      · rcases List.mem_cons.1 hj with rfl | hj
        · exact .inl hi
        · exact .inr hj
    obtain ⟨hmem, hclosed⟩ := ih fun a b he ha => hdrop b (hinv a b he ha)
    exact ⟨fun j hj => hmem j (hdrop j hj), hclosed⟩
  | @visit seen pending found i hi _ ih =>
    have hkeep : ∀ j, j ∈ seen ∨ j ∈ i :: pending →
        j ∈ i :: seen ∨ j ∈ nextPlaces edges i ++ pending := by
      rintro j (hj | hj)
      · exact .inl (List.mem_cons_of_mem i hj)
      · rcases List.mem_cons.1 hj with rfl | hj
        · exact .inl (by simp)
        · exact .inr (List.mem_append_right _ hj)
    have hinv' : ∀ a b, (a, b) ∈ edges → a ∈ i :: seen →
        b ∈ i :: seen ∨ b ∈ nextPlaces edges i ++ pending := by
      intro a b he ha
      rcases List.mem_cons.1 ha with rfl | ha
      · exact .inr (List.mem_append_left pending (mem_nextPlaces.2 he))
      · exact hkeep b (hinv a b he ha)
    obtain ⟨hmem, hclosed⟩ := ih hinv'
    exact ⟨fun j hj => hmem j (hkeep j hj), hclosed⟩

end

theorem walks_reachablePlaces (g : Graph) (start : Nat) :
    Walks g.viewEdges [] [start] (g.reachablePlaces start) := by
  have hle := List.length_filter_le (fun e => decide (e.1 ∉ ([] : List Nat))) g.viewEdges
  refine walks_walk ?_
  rw [List.length_singleton]
  omega

/-- The places found from a start are those that edges of the view lead to. -/
theorem mem_reachablePlaces {g : Graph} {start j : Nat} :
    j ∈ g.reachablePlaces start ↔
      Relation.ReflTransGen (fun a b => (a, b) ∈ g.viewEdges) start j := by
  have hwalks := g.walks_reachablePlaces start
  constructor
  · refine hwalks.sound (P := Relation.ReflTransGen (fun a b => (a, b) ∈ g.viewEdges) start)
      (fun a b he ha => ha.tail he) (by simp) ?_ j
    intro i hi
    rw [List.mem_singleton] at hi
    exact hi ▸ .refl
  · intro h
    obtain ⟨hmem, hclosed⟩ := hwalks.closed (fun i j _ hi => absurd hi (by simp))
    induction h with
    | refl => exact hmem start (.inr (by simp))
    | tail _ he ih => exact hclosed _ _ he ih

/-! ## Vertices -/

/-- A path of listed edges from a listed vertex ends at one. -/
theorem mem_nodes_of_listed_path {g : Graph} {m n : Vertex} (hm : m ∈ g.nodes)
    (h : Relation.ReflTransGen g.ListedEdge m n) : n ∈ g.nodes := by
  rcases Relation.ReflTransGen.cases_tail h with rfl | ⟨a, -, han⟩
  · exact hm
  · exact han.2

/-- Places that the view leads to are the places of vertices that listed edges lead to. -/
theorem view_path_iff {g : Graph} {m : Vertex} {i j : Nat} (hm : g.place? m = some i) :
    Relation.ReflTransGen (fun a b => (a, b) ∈ g.viewEdges) i j ↔
      ∃ n, g.place? n = some j ∧ Relation.ReflTransGen g.ListedEdge m n := by
  refine ⟨fun h => ?_, ?_⟩
  · induction h with
    | refl => exact ⟨m, hm, .refl⟩
    | tail _ he ih =>
      obtain ⟨n, hn, hpath⟩ := ih
      obtain ⟨n', k, hk, hn', hk', -⟩ := mem_viewEdges.1 he
      cases place?_inj hn hn'
      exact ⟨k, hk', hpath.tail ⟨hk, mem_of_place? hk'⟩⟩
  · rintro ⟨n, hn, hpath⟩
    induction hpath generalizing j with
    | refl =>
      rw [hm] at hn
      cases hn
      exact .refl
    | @tail b c hpath hbc ih =>
      obtain ⟨k, hk⟩ := exists_lastPlace? (mem_nodes_of_listed_path (mem_of_place? hm) hpath)
      -- a self edge is missing from the view, but its ends stand at one place
      by_cases hjk : j = k
      · exact hjk ▸ ih hk
      · exact (ih hk).tail (mem_viewEdges.2 ⟨b, c, hbc.1, hk, hn, hjk⟩)

/-- **Reachability on every graph.** The reachable vertices are those that a path through listed
vertices leads to from a listed entry. -/
theorem mem_reachable_iff {g : Graph} {n : Vertex} :
    n ∈ g.reachable ↔ g.entry ∈ g.nodes ∧ Relation.ReflTransGen g.ListedEdge g.entry n := by
  rw [reachable]
  split
  · next hnone =>
    refine ⟨fun h => ?_, ?_⟩
    · cases h
    · rintro ⟨hentry, -⟩
      obtain ⟨i, hi⟩ := exists_lastPlace? hentry
      exact nomatch hnone.symm.trans hi
  · next start hstart =>
    rw [List.mem_filter, Option.any_eq_true]
    constructor
    · rintro ⟨-, j, hj, hmem⟩
      have hview := mem_reachablePlaces.1 (by simpa using hmem)
      obtain ⟨m, hm, hpath⟩ := (view_path_iff hstart).1 hview
      cases place?_inj hm hj
      exact ⟨mem_of_place? hstart, hpath⟩
    · rintro ⟨hentry, hpath⟩
      have hn := mem_nodes_of_listed_path hentry hpath
      obtain ⟨j, hj⟩ := exists_lastPlace? hn
      refine ⟨hn, j, hj, ?_⟩
      simpa using mem_reachablePlaces.2 ((view_path_iff hstart).2 ⟨n, hj, hpath⟩)

/-- The reachable vertices stand in the order of the list of vertices. -/
theorem reachable_sublist (g : Graph) : g.reachable.Sublist g.nodes := by
  unfold reachable
  split
  · exact List.nil_sublist _
  · exact List.filter_sublist

namespace WellFormed

variable {g : Graph} {m n : Vertex}

/-- What a path leads to in a well-formed graph is listed. -/
theorem mem_nodes_of_reached (hg : g.WellFormed) (h : g.Reached n) : n ∈ g.nodes := by
  induction h with
  | refl => exact hg.entry_mem
  | tail _ he ih => exact hg.succs_mem _ ih _ he

/-- **Reachability on a well-formed graph.** The reachable vertices are those that a path leads to
from the entry. -/
theorem mem_reachable_iff (hg : g.WellFormed) : n ∈ g.reachable ↔ g.Reached n := by
  rw [Graph.mem_reachable_iff]
  constructor
  · rintro ⟨-, h⟩
    have hle : g.ListedEdge ≤ g.Edge := fun _ _ hab => hab.1
    exact Relation.ReflTransGen.mono hle _ _ h
  · intro h
    refine ⟨hg.entry_mem, ?_⟩
    induction h with
    | refl => exact .refl
    | tail hpath he ih => exact ih.tail ⟨he, hg.succs_mem _ (hg.mem_nodes_of_reached hpath) _ he⟩

/-- Reachable vertices are listed. -/
theorem reachable_subset (hg : g.WellFormed) (h : n ∈ g.reachable) : n ∈ g.nodes :=
  hg.mem_nodes_of_reached (hg.mem_reachable_iff.1 h)

/-- Reachable vertices are listed once each. -/
theorem nodup_reachable (hg : g.WellFormed) : g.reachable.Nodup :=
  hg.nodup.sublist g.reachable_sublist

/-- A vertex that is listed before another one has the smaller place. -/
theorem pairwise_idxOf (hg : g.WellFormed) :
    g.nodes.Pairwise fun m n => g.nodes.idxOf m < g.nodes.idxOf n := by
  rw [List.pairwise_iff_getElem]
  intro i j hi hj hij
  rw [hg.nodup.idxOf_getElem i hi, hg.nodup.idxOf_getElem j hj]
  exact hij

/-- The reachable vertices are the only list of what is reached in the order of the vertices. -/
theorem eq_reachable (hg : g.WellFormed) {R : List Vertex} (hsub : R.Sublist g.nodes)
    (hmem : ∀ n, n ∈ R ↔ g.Reached n) : R = g.reachable := by
  have hperm : R.Perm g.reachable := by
    rw [List.perm_ext_iff_of_nodup (hg.nodup.sublist hsub) hg.nodup_reachable]
    intro n
    rw [hmem, hg.mem_reachable_iff]
  refine hperm.eq_of_pairwise ?_ (hg.pairwise_idxOf.sublist hsub)
    (hg.pairwise_idxOf.sublist g.reachable_sublist)
  intro m n _ _ hmn hnm
  exact absurd hmn (Nat.lt_asymm hnm)

/-- Successors of reachable vertices are reachable. -/
theorem succs_reachable (hg : g.WellFormed) (hm : m ∈ g.reachable) (h : n ∈ g.succs m) :
    n ∈ g.reachable :=
  hg.mem_reachable_iff.2 ((hg.mem_reachable_iff.1 hm).tail h)

end WellFormed

/-! ## Graphs inside graphs -/

/-- The entry, the vertices and the edges of `g` are those of `g'` or some of them, whatever their
order and however often they are listed. -/
structure Subgraph (g g' : Graph) : Prop where
  entry : g.entry = g'.entry
  nodes : ∀ n ∈ g.nodes, n ∈ g'.nodes
  edges : ∀ m ∈ g.nodes, ∀ n ∈ g.succs m, n ∈ g'.succs m

/-- What is reached stays so in a graph that has the edges met on the way. -/
theorem Reached.of_edges {g g' : Graph} (hentry : g.entry = g'.entry)
    (hedge : ∀ m n, g.Reached m → g.Edge m n → g'.Edge m n) {n : Vertex} (h : g.Reached n) :
    g'.Reached n := by
  induction h with
  | refl =>
    rw [hentry]
    exact .refl
  | tail hpath he ih => exact ih.tail (hedge _ _ hpath he)

/-! ## Paths -/

/-- A path of edges from the entry to `n` that passes the vertices `ps` before it. -/
def PathTo (g : Graph) (ps : List Vertex) (n : Vertex) : Prop :=
  (ps ++ [n]).head? = some g.entry ∧ (ps ++ [n]).IsChain g.Edge

instance (g : Graph) (ps : List Vertex) (n : Vertex) : Decidable (g.PathTo ps n) :=
  inferInstanceAs (Decidable (_ ∧ _))

section
variable {g : Graph} {ps : List Vertex} {m n : Vertex}

/-- The last edge of a list of edges. -/
theorem isChain_concat :
    (ps ++ [m] ++ [n]).IsChain g.Edge ↔ (ps ++ [m]).IsChain g.Edge ∧ g.Edge m n := by
  rw [List.append_assoc, List.singleton_append, List.isChain_append_cons_cons]
  simp

theorem pathTo_nil : g.PathTo [] n ↔ n = g.entry := by
  simp [PathTo]

/-- The last edge of a path. -/
theorem pathTo_concat : g.PathTo (ps ++ [m]) n ↔ g.PathTo ps m ∧ g.Edge m n := by
  have hhead : (ps ++ [m] ++ [n]).head? = (ps ++ [m]).head? := by
    cases ps <;> rfl
  rw [PathTo, PathTo, hhead, isChain_concat, and_assoc]

/-- Paths lead to the vertices that are reached. -/
theorem exists_pathTo_iff : (∃ ps, g.PathTo ps n) ↔ g.Reached n := by
  constructor
  · rintro ⟨ps, h⟩
    induction ps using List.reverseRecOn generalizing n with
    | nil =>
      cases pathTo_nil.1 h
      exact .refl
    | append_singleton ps m ih =>
      obtain ⟨hpath, hedge⟩ := pathTo_concat.1 h
      exact (ih hpath).tail hedge
  · intro h
    induction h with
    | refl => exact ⟨[], pathTo_nil.2 rfl⟩
    | @tail m n _ hedge ih =>
      obtain ⟨ps, hpath⟩ := ih
      exact ⟨ps ++ [m], pathTo_concat.2 ⟨hpath, hedge⟩⟩

/-! ## Paths through listed vertices -/

/-- A path of edges leads from the entry to `n`, and all vertices on it are listed. -/
def Accessible (g : Graph) (n : Vertex) : Prop :=
  ∃ ps, g.PathTo ps n ∧ ∀ m ∈ ps ++ [n], m ∈ g.nodes

theorem Accessible.entry (h : g.entry ∈ g.nodes) : g.Accessible g.entry :=
  ⟨[], pathTo_nil.2 rfl, by simpa using h⟩

theorem Accessible.tail (hm : g.Accessible m) (hedge : g.ListedEdge m n) : g.Accessible n := by
  obtain ⟨ps, hpath, hlisted⟩ := hm
  refine ⟨ps ++ [m], pathTo_concat.2 ⟨hpath, hedge.1⟩, ?_⟩
  intro k hk
  rcases List.mem_append.1 hk with hk | hk
  · exact hlisted k hk
  · exact List.mem_singleton.1 hk ▸ hedge.2

/-- The vertices that the search is compared with are the accessible ones. -/
theorem accessible_iff :
    g.Accessible n ↔ g.entry ∈ g.nodes ∧ Relation.ReflTransGen g.ListedEdge g.entry n := by
  constructor
  · rintro ⟨ps, hpath, hlisted⟩
    induction ps using List.reverseRecOn generalizing n with
    | nil =>
      cases pathTo_nil.1 hpath
      exact ⟨hlisted g.entry (by simp), .refl⟩
    | append_singleton ps m ih =>
      obtain ⟨hpath, hedge⟩ := pathTo_concat.1 hpath
      obtain ⟨hentry, h⟩ := ih hpath fun k hk => hlisted k (List.mem_append_left [n] hk)
      exact ⟨hentry, h.tail ⟨hedge, hlisted n (by simp)⟩⟩
  · rintro ⟨hentry, h⟩
    induction h with
    | refl => exact .entry hentry
    | tail _ hedge ih => exact ih.tail hedge

end

/-- The reachable vertices are picked from the list, whichever they are. -/
theorem reachable_eq_filter_mem (g : Graph) : g.reachable = g.nodes.filter (· ∈ g.reachable) := by
  unfold reachable
  split
  · simp
  · refine List.filter_congr fun n hn => ?_
    simp [hn]

/-- **Reachability is exact on every graph**, well formed or not. The search finds, in the order of
the list and as often as they are listed, the vertices that a path through listed vertices leads to
from the entry, and none if the entry is not listed, although it runs on the view by last places,
without self edges and edges that lead outside. It ends by itself: without the bound on its rounds
it comes to the same end, and to no other. -/
theorem reachable_exact (g : Graph) [DecidablePred g.Accessible] :
    g.reachable = g.nodes.filter (g.Accessible ·) ∧
      (g.entry ∉ g.nodes → g.reachable = []) ∧
      ∀ start found, Walks g.viewEdges [] [start] found ↔ found = g.reachablePlaces start := by
  have hfilter : g.reachable = g.nodes.filter (g.Accessible ·) := by
    rw [reachable_eq_filter_mem]
    refine List.filter_congr fun n _ => ?_
    rw [decide_eq_decide, mem_reachable_iff, accessible_iff]
  refine ⟨hfilter, fun hentry => ?_, fun start found => ⟨fun h => ?_, ?_⟩⟩
  · rw [hfilter, List.filter_eq_nil_iff]
    intro n _ hn
    exact hentry (accessible_iff.1 (of_decide_eq_true hn)).1
  · exact h.unique (g.walks_reachablePlaces start)
  · rintro rfl
    exact g.walks_reachablePlaces start

-- `a` is listed twice and leads to itself; `c` is reached only through `d`, which is not listed
example :
    let a : Vertex := some ⟨0, "a", 0⟩
    let c : Vertex := some ⟨2, "c", 0⟩
    let d : Vertex := some ⟨3, "d", 0⟩
    let succs n := if n = a then [a, d, none] else if n = d then [c] else []
    reachable ⟨[a, c, a, none], a, succs, fun _ => []⟩ = [a, a, none] := by decide

end LeakCheck.Graph
