import LeakCheck.Proofs.Graph.Adjacency
import LeakCheck.Ssa.Flow

/-!
# The graph of a function

The steps that build the graph of a function number its instructions through all blocks and add
edges in three passes. Here the graph is compared with the function itself: `nodeIn?` is the node of
an instruction by its block and its place in it, and `Next`, `Jumps` and `Raises` say from where to
where control may pass. `edge_mem_changes` shows that the passes add these edges and no others,
`mentioned_changes` that they mention the nodes in the order of the instructions. So the graph is
the one that a function should have (`graph_draws`).
-/

namespace LeakCheck.Ssa.Function

open Adjacency (Change)

/-! ## Where control may pass -/

/-- The `j`th instruction of the block `b`. -/
def instrIn? (f : Function) (b j : Nat) : Option Instr := f.blocks[b]?.bind (·.instrs[j]?)

/-- The number of instructions in the blocks before `b`. -/
def countBefore (f : Function) (b : Nat) : Nat := ((f.blocks.take b).flatMap (·.instrs)).length

/-- The node of the `j`th instruction of the block `b`. -/
def nodeIn? (f : Function) (b j : Nat) : Option Vertex :=
  (f.instrIn? b j).map fun i => some (f.node (f.countBefore b + j) i)

/-- The nodes of all instructions, in the order of the blocks and of the instructions in them. -/
def vertices (f : Function) : List Vertex := f.instrs.zipIdx.map fun (i, k) => some (f.node k i)

/-- The first block has an instruction. -/
def HasBody (f : Function) : Prop := ∃ i, f.instrIn? 0 0 = some i

section
variable (f : Function) (x y : Vertex)

/-- `y` follows `x` inside a block. -/
def Next : Prop := ∃ b j, f.nodeIn? b j = some x ∧ f.nodeIn? b (j + 1) = some y

/-- `x` is last in a block and `y` first in one that may come next. -/
def Jumps : Prop :=
  ∃ b block j s, f.blocks[b]? = some block ∧ block.instrs.length = j + 1 ∧
    f.nodeIn? b j = some x ∧ s ∈ block.succs ∧ f.nodeIn? s 0 = some y

/-- `x` is a call or a panic and `y` first in the block that failures lead to. -/
def Raises : Prop :=
  ∃ r b j i, f.recover = some r ∧ f.nodeIn? r 0 = some y ∧ f.instrIn? b j = some i ∧
    f.nodeIn? b j = some x ∧ ((∃ call, i.operation = .call call) ∨ i.operation = .panic)

end

/-! ## Rows -/

section
variable {f : Function}

/-- The nodes of a block's instructions, the first with the number `start`. -/
def row (f : Function) (start : Nat) (b : Block) : List Vertex :=
  (b.instrs.zipIdx start).map fun (i, k) => some (f.node k i)

theorem length_row (start : Nat) (b : Block) : (f.row start b).length = b.instrs.length := by
  rw [row, List.length_map, List.length_zipIdx]

theorem getElem?_row (start : Nat) (b : Block) (j : Nat) :
    (f.row start b)[j]? = b.instrs[j]?.map fun i => some (f.node (start + j) i) := by
  rw [row, List.getElem?_map, List.getElem?_zipIdx, Option.map_map]
  rfl

theorem rowsFrom_cons (start : Nat) (b : Block) (rest : List Block) :
    f.rowsFrom start (b :: rest) = f.row start b :: f.rowsFrom (start + b.instrs.length) rest :=
  rfl

theorem getElem?_rowsFrom (blocks : List Block) (start b : Nat) :
    (f.rowsFrom start blocks)[b]? =
      blocks[b]?.map (f.row (start + ((blocks.take b).flatMap (·.instrs)).length)) := by
  induction blocks generalizing start b with
  | nil => rfl
  | cons block rest ih =>
    cases b with
    | zero => rfl
    | succ b =>
      rw [rowsFrom_cons, List.getElem?_cons_succ, ih, List.getElem?_cons_succ, List.take_succ_cons,
        List.flatMap_cons, List.length_append, Nat.add_assoc]

theorem getElem?_rows (b : Nat) : f.rows[b]? = f.blocks[b]?.map (f.row (f.countBefore b)) := by
  rw [rows, getElem?_rowsFrom, Nat.zero_add, countBefore]

theorem nodeIn?_eq (b j : Nat) : f.nodeIn? b j = f.rows[b]?.bind (·[j]?) := by
  rw [getElem?_rows, nodeIn?, instrIn?]
  cases f.blocks[b]? with
  | none => rfl
  | some block => exact (getElem?_row _ block j).symm

theorem nodeIn?_of_block {b : Nat} {block : Block} (hb : f.blocks[b]? = some block) (j : Nat) :
    f.nodeIn? b j = (f.row (f.countBefore b) block)[j]? := by
  rw [nodeIn?_eq, getElem?_rows, hb]
  rfl

theorem mem_zip_rows {block : Block} {row : List Vertex} :
    (block, row) ∈ f.blocks.zip f.rows ↔
      ∃ b, f.blocks[b]? = some block ∧ row = f.row (f.countBefore b) block := by
  simp only [List.mem_iff_getElem?, List.getElem?_zip_eq_some, getElem?_rows]
  constructor
  · rintro ⟨b, hb, hrow⟩
    rw [hb] at hrow
    exact ⟨b, hb, (Option.some.inj hrow).symm⟩
  · rintro ⟨b, hb, rfl⟩
    exact ⟨b, hb, by rw [hb]; rfl⟩

theorem firstOf_rows (b : Nat) : firstOf f.rows b = f.nodeIn? b 0 := by
  simp only [firstOf, nodeIn?_eq, List.head?_eq_getElem?]

theorem flatten_rowsFrom (blocks : List Block) (start : Nat) :
    (f.rowsFrom start blocks).flatten =
      ((blocks.flatMap (·.instrs)).zipIdx start).map fun (i, k) => some (f.node k i) := by
  induction blocks generalizing start with
  | nil => rfl
  | cons block rest ih =>
    rw [rowsFrom_cons, List.flatten_cons, ih, List.flatMap_cons, List.zipIdx_append,
      List.map_append, row]

theorem flatten_rows : f.rows.flatten = f.vertices := flatten_rowsFrom f.blocks 0

/-- No two instructions have the same node, for the numbers tell them apart. -/
theorem nodup_vertices : f.vertices.Nodup := by
  have hnumbers : f.vertices.map (fun v => v.map Node.id) =
      (List.range' 0 f.instrs.length).map some := by
    rw [← List.zipIdx_map_snd, vertices, List.map_map, List.map_map]
    rfl
  have hnodup : (f.vertices.map fun v => v.map Node.id).Nodup := by
    rw [hnumbers]
    exact List.Nodup.map (fun _ _ h => Option.some.inj h) List.nodup_range'
  exact hnodup.of_map _

theorem mem_vertices_of_nodeIn? {b j : Nat} {v : Vertex} (h : f.nodeIn? b j = some v) :
    v ∈ f.vertices := by
  rw [nodeIn?_eq, Option.bind_eq_some_iff] at h
  obtain ⟨row, hrow, hv⟩ := h
  rw [← flatten_rows]
  exact List.mem_flatten.2 ⟨row, List.mem_of_getElem? hrow, List.mem_of_getElem? hv⟩

/-! ## The first pass -/

theorem edge_mem_innerEdges {row : List Vertex} {x y : Vertex} :
    .edge x y ∈ innerEdges row ↔ ∃ j, row[j]? = some x ∧ row[j + 1]? = some y := by
  cases row with
  | nil => simp [innerEdges]
  | cons n rest =>
    rw [innerEdges, List.mem_cons, List.mem_iff_getElem?]
    simp [List.getElem?_zipWith_eq_some]

theorem edge_mem_inner {x y : Vertex} : .edge x y ∈ f.rows.flatMap innerEdges ↔ f.Next x y := by
  rw [List.mem_flatMap]
  constructor
  · rintro ⟨row, hrow, h⟩
    obtain ⟨b, hb⟩ := List.mem_iff_getElem?.1 hrow
    obtain ⟨j, hx, hy⟩ := edge_mem_innerEdges.1 h
    exact ⟨b, j, by rw [nodeIn?_eq, hb]; exact hx, by rw [nodeIn?_eq, hb]; exact hy⟩
  · rintro ⟨b, j, hx, hy⟩
    rw [nodeIn?_eq, Option.bind_eq_some_iff] at hx hy
    obtain ⟨row, hrow, hx⟩ := hx
    obtain ⟨row', hrow', hy⟩ := hy
    cases hrow.symm.trans hrow'
    exact ⟨row, List.mem_of_getElem? hrow, edge_mem_innerEdges.2 ⟨j, hx, hy⟩⟩

/-! ## The second pass -/

theorem getLast?_row {start : Nat} {b : Block} {x : Vertex} :
    (f.row start b).getLast? = some x ↔
      ∃ j, b.instrs.length = j + 1 ∧ (f.row start b)[j]? = some x := by
  rw [List.getLast?_eq_getElem?, length_row]
  constructor
  · intro h
    have hlt : b.instrs.length - 1 < b.instrs.length := by
      have := (List.getElem?_eq_some_iff.1 h).1
      rwa [length_row] at this
    exact ⟨b.instrs.length - 1, by omega, h⟩
  · rintro ⟨j, hj, h⟩
    rw [hj]
    exact h

theorem mem_outerEdges {rows : List (List Vertex)} {b : Block} {row : List Vertex} {c : Change} :
    c ∈ outerEdges rows b row ↔
      ∃ x y, c = .edge x y ∧ row.getLast? = some x ∧ ∃ s ∈ b.succs, firstOf rows s = some y := by
  unfold outerEdges
  cases row.getLast? with
  | none => simp
  | some last =>
    simp only [List.mem_filterMap, Option.map_eq_some_iff]
    constructor
    · rintro ⟨s, hs, y, hy, rfl⟩
      exact ⟨last, y, rfl, rfl, s, hs, hy⟩
    · rintro ⟨x, y, rfl, hx, s, hs, hy⟩
      cases hx
      exact ⟨s, hs, y, hy, rfl⟩

theorem mem_outer {c : Change} :
    c ∈ (f.blocks.zip f.rows).flatMap (fun (b, row) => outerEdges f.rows b row) ↔
      ∃ x y, c = .edge x y ∧ f.Jumps x y := by
  rw [List.mem_flatMap]
  constructor
  · rintro ⟨⟨block, row⟩, hmem, hc⟩
    obtain ⟨b, hb, rfl⟩ := mem_zip_rows.1 hmem
    obtain ⟨x, y, rfl, hx, s, hs, hy⟩ := mem_outerEdges.1 hc
    obtain ⟨j, hj, hx⟩ := getLast?_row.1 hx
    rw [← nodeIn?_of_block hb] at hx
    rw [firstOf_rows] at hy
    exact ⟨x, y, rfl, b, block, j, s, hb, hj, hx, hs, hy⟩
  · rintro ⟨x, y, rfl, b, block, j, s, hb, hj, hx, hs, hy⟩
    rw [nodeIn?_of_block hb] at hx
    rw [← firstOf_rows] at hy
    exact ⟨(block, _), mem_zip_rows.2 ⟨b, hb, rfl⟩,
      mem_outerEdges.2 ⟨x, y, rfl, getLast?_row.2 ⟨j, hj, hx⟩, s, hs, hy⟩⟩

/-! ## The third pass -/

theorem mayFail_iff {i : Instr} :
    i.mayFail = true ↔ (∃ call, i.operation = .call call) ∨ i.operation = .panic := by
  unfold Instr.mayFail
  split
  · next call h => simp [h]
  · next h => simp [h]
  · next hcall hpanic =>
    refine ⟨nofun, ?_⟩
    rintro (⟨call, h⟩ | h)
    · exact absurd h (hcall call)
    · exact absurd h hpanic

theorem zip_flatten_rowsFrom (blocks : List Block) (start : Nat) :
    (blocks.flatMap (·.instrs)).zip (f.rowsFrom start blocks).flatten =
      (blocks.zip (f.rowsFrom start blocks)).flatMap fun (b, row) => b.instrs.zip row := by
  induction blocks generalizing start with
  | nil => rfl
  | cons block rest ih =>
    rw [rowsFrom_cons, List.flatten_cons, List.flatMap_cons,
      List.zip_append (length_row start block).symm, ih, List.zip_cons_cons, List.flatMap_cons]

/-- The nodes that the third pass looks at are those of the instructions. -/
theorem mem_zip_flatten_rows {i : Instr} {x : Vertex} :
    (i, x) ∈ f.instrs.zip f.rows.flatten ↔
      ∃ b j, f.instrIn? b j = some i ∧ f.nodeIn? b j = some x := by
  rw [instrs, rows, zip_flatten_rowsFrom, List.mem_flatMap]
  constructor
  · rintro ⟨⟨block, row⟩, hmem, hix⟩
    obtain ⟨b, hb, rfl⟩ := mem_zip_rows.1 hmem
    obtain ⟨j, hj⟩ := List.mem_iff_getElem?.1 hix
    obtain ⟨hi, hx⟩ := List.getElem?_zip_eq_some.1 hj
    exact ⟨b, j, by rw [instrIn?, hb]; exact hi, by rw [nodeIn?_of_block hb]; exact hx⟩
  · rintro ⟨b, j, hi, hx⟩
    obtain ⟨block, hb, hi⟩ := Option.bind_eq_some_iff.1 hi
    rw [nodeIn?_of_block hb] at hx
    exact ⟨(block, _), mem_zip_rows.2 ⟨b, hb, rfl⟩,
      List.mem_iff_getElem?.2 ⟨j, List.getElem?_zip_eq_some.2 ⟨hi, hx⟩⟩⟩

theorem mem_failureEdges {c : Change} :
    c ∈ f.failureEdges f.rows ↔ ∃ x y, c = .edge x y ∧ f.Raises x y := by
  have hhandler : ∀ y, f.recover.bind (firstOf f.rows) = some y ↔
      ∃ r, f.recover = some r ∧ f.nodeIn? r 0 = some y := by
    intro y
    simp only [Option.bind_eq_some_iff, firstOf_rows]
  unfold failureEdges
  split
  · next hnone =>
    refine ⟨nofun, ?_⟩
    rintro ⟨x, y, -, r, b, j, i, hr, hy, -⟩
    exact nomatch hnone.symm.trans ((hhandler y).2 ⟨r, hr, hy⟩)
  · next handler hsome =>
    simp only [List.mem_filterMap, Prod.exists, Option.ite_none_right_eq_some, mayFail_iff]
    constructor
    · rintro ⟨i, x, hix, hi, hc⟩
      obtain ⟨r, hr, hy⟩ := (hhandler handler).1 hsome
      obtain ⟨b, j, hib, hx⟩ := mem_zip_flatten_rows.1 hix
      exact ⟨x, handler, (Option.some.inj hc).symm, r, b, j, i, hr, hy, hib, hx, hi⟩
    · rintro ⟨x, y, rfl, r, b, j, i, hr, hy, hib, hx, hi⟩
      cases hsome.symm.trans ((hhandler y).2 ⟨r, hr, hy⟩)
      exact ⟨i, x, mem_zip_flatten_rows.2 ⟨b, j, hib, hx⟩, hi, rfl⟩

/-! ## All passes -/

/-- **The passes add the edges along which control may pass**, and no others. -/
theorem edge_mem_changes {x y : Vertex} :
    .edge x y ∈ f.changes ↔ f.Next x y ∨ f.Jumps x y ∨ f.Raises x y := by
  rw [changes, List.mem_append, List.mem_append, edge_mem_inner, mem_outer, mem_failureEdges,
    or_assoc]
  simp

/-- A row of edges mentions its vertices one after the other. -/
theorem eraseDups_mentions_row {n : Vertex} {rest : List Vertex} (h : (n :: rest).Nodup) :
    (n :: (List.zipWith Change.edge (n :: rest) rest).flatMap Change.mentions).eraseDups =
      n :: rest := by
  induction rest generalizing n with
  | nil => rfl
  | cons m rest ih =>
    obtain ⟨hn, hrest⟩ := List.nodup_cons.1 h
    have hrow := ih hrest
    -- `n` is mentioned twice in front of the row of `m`, and not in it
    have hout : ∀ k ∈ m :: (List.zipWith Change.edge (m :: rest) rest).flatMap Change.mentions,
        k ∉ [n] := by
      intro k hk hkn
      rw [← List.mem_eraseDups, hrow] at hk
      exact hn (List.mem_singleton.1 hkn ▸ hk)
    calc (n :: n :: m :: (List.zipWith Change.edge (m :: rest) rest).flatMap
          Change.mentions).eraseDups
        = ([n] ++ m :: (List.zipWith Change.edge (m :: rest) rest).flatMap
            Change.mentions).eraseDups := eraseDups_cons_of_head? rfl
      _ = n :: m :: rest := by rw [eraseDups_append_of_disjoint hout, hrow]; rfl

/-- The first pass mentions the vertices of all rows one after the other. -/
theorem eraseDups_mentions_rows {rows : List (List Vertex)} (h : rows.flatten.Nodup) :
    ((rows.flatMap innerEdges).flatMap Change.mentions).eraseDups = rows.flatten := by
  induction rows with
  | nil => rfl
  | cons row rest ih =>
    rw [List.flatten_cons, List.nodup_append] at h
    obtain ⟨hrow, hrest, hdisjoint⟩ := h
    have hfirst : ((innerEdges row).flatMap Change.mentions).eraseDups = row := by
      cases row with
      | nil => rfl
      | cons n row => exact eraseDups_mentions_row hrow
    have hout : ∀ k ∈ (rest.flatMap innerEdges).flatMap Change.mentions,
        k ∉ (innerEdges row).flatMap Change.mentions := by
      intro k hk hkrow
      rw [← List.mem_eraseDups, ih hrest] at hk
      rw [← List.mem_eraseDups, hfirst] at hkrow
      exact hdisjoint k hkrow k hk rfl
    rw [List.flatMap_cons, List.flatMap_append, eraseDups_append_of_disjoint hout, hfirst,
      ih hrest, List.flatten_cons]

theorem head?_vertices {entry : Vertex} (h : f.nodeIn? 0 0 = some entry) :
    f.vertices.head? = some entry := by
  rw [nodeIn?_eq, Option.bind_eq_some_iff] at h
  obtain ⟨row, hrow, hentry⟩ := h
  rw [← flatten_rows]
  cases hrows : f.rows with
  | nil =>
    rw [hrows] at hrow
    cases hrow
  | cons first rest =>
    rw [hrows, List.getElem?_cons_zero] at hrow
    cases hrow
    rw [List.flatten_cons, List.head?_append, List.head?_eq_getElem?, hentry]
    rfl

theorem Jumps.mem_vertices {x y : Vertex} (h : f.Jumps x y) : x ∈ f.vertices ∧ y ∈ f.vertices := by
  obtain ⟨b, block, j, s, -, -, hx, -, hy⟩ := h
  exact ⟨mem_vertices_of_nodeIn? hx, mem_vertices_of_nodeIn? hy⟩

theorem Raises.mem_vertices {x y : Vertex} (h : f.Raises x y) :
    x ∈ f.vertices ∧ y ∈ f.vertices := by
  obtain ⟨r, b, j, i, -, hy, -, hx, -⟩ := h
  exact ⟨mem_vertices_of_nodeIn? hx, mem_vertices_of_nodeIn? hy⟩

/-- **The passes mention the nodes in the order of the instructions.** The first pass mentions all
of them, so that the others only repeat some. -/
theorem mentioned_changes {entry : Vertex} (h : f.nodeIn? 0 0 = some entry) :
    Adjacency.mentioned entry f.changes = f.vertices := by
  have hall : ((f.rows.flatMap innerEdges).flatMap Change.mentions).eraseDups = f.vertices := by
    rw [eraseDups_mentions_rows (flatten_rows ▸ nodup_vertices), flatten_rows]
  have hhead : ((f.rows.flatMap innerEdges).flatMap Change.mentions).head? = some entry := by
    rw [← head?_eraseDups, hall, head?_vertices h]
  have hrepeat : ((f.blocks.zip f.rows).flatMap (fun (b, row) => outerEdges f.rows b row) ++
      f.failureEdges f.rows).flatMap Change.mentions ⊆
        entry :: (f.rows.flatMap innerEdges).flatMap Change.mentions := by
    intro k hk
    obtain ⟨c, hc, hkc⟩ := List.mem_flatMap.1 hk
    have hends : ∃ x y, c = .edge x y ∧ x ∈ f.vertices ∧ y ∈ f.vertices := by
      rcases List.mem_append.1 hc with hc | hc
      · obtain ⟨x, y, rfl, hxy⟩ := mem_outer.1 hc
        exact ⟨x, y, rfl, hxy.mem_vertices⟩
      · obtain ⟨x, y, rfl, hxy⟩ := mem_failureEdges.1 hc
        exact ⟨x, y, rfl, hxy.mem_vertices⟩
    obtain ⟨x, y, rfl, hx, hy⟩ := hends
    refine List.mem_cons_of_mem entry (List.mem_eraseDups.1 (hall ▸ ?_))
    rcases List.mem_cons.1 hkc with rfl | hky
    · exact hx
    · exact List.mem_singleton.1 hky ▸ hy
  rw [Adjacency.mentioned, changes, List.append_assoc, List.flatMap_append, ← List.cons_append,
    eraseDups_append_of_subset hrepeat, eraseDups_cons_of_head? hhead, hall]

/-! ## The graph -/

/-- The graph that a function should have: its nodes are those of the instructions in their order,
it is entered at the first of them, its edges are where control may pass, seen from both ends, and
it has no defect. -/
structure Draws (f : Function) (g : Graph) : Prop where
  nodes : g.nodes = f.vertices
  entry : f.nodeIn? 0 0 = some g.entry
  succs : ∀ x y, y ∈ g.succs x ↔ f.Next x y ∨ f.Jumps x y ∨ f.Raises x y
  preds : ∀ x y, x ∈ g.preds y ↔ f.Next x y ∨ f.Jumps x y ∨ f.Raises x y
  accepted : g.defect? = none

/-- **The graph of a function is the one that it should have.** -/
theorem graph_draws (h : f.HasBody) : ∃ g, f.graph = .ok g ∧ f.Draws g := by
  obtain ⟨i, hi⟩ := h
  have hentry : f.nodeIn? 0 0 = some (some (f.node 0 i)) := by
    rw [nodeIn?, hi]
    rfl
  have hbuilt := Adjacency.records_built (some (f.node 0 i)) f.changes
  refine ⟨(Adjacency.built (some (f.node 0 i)) f.changes).toGraph, ?_, ?_⟩
  · rw [graph, firstOf_rows, hentry]
    rfl
  · exact {
      nodes := hbuilt.nodes_eq.trans (mentioned_changes hentry)
      entry := hentry.trans (congrArg some hbuilt.entry_eq.symm)
      succs := fun x y => hbuilt.mem_succs.trans edge_mem_changes
      preds := fun x y => hbuilt.mem_preds.trans edge_mem_changes
      accepted := (hbuilt.wellFormed nofun).defect?_eq_none }

-- of the blocks after the first one the second is empty, the third handles failures, and there is
-- no eighth
example :
    let call : Instr := {
      form := "Call", text := "f()", result := some 1
      operation := .call ⟨0, false, [], 0, .dynamic⟩ }
    let jump : Instr := { form := "Jump", text := "jump" }
    let panic : Instr := { form := "Panic", text := "panic", operation := .panic }
    let f : Function := {
      text := "p.F", name := "F", recover := some 2
      blocks := [{ instrs := [call, jump], succs := [1, 2, 2, 7] }, { succs := [2] },
        { instrs := [panic], succs := [0] }] }
    (f.graph.toOption.map fun g => g.nodes.map fun n => (g.succs n).map (·.map Node.id)) =
      some [[some 1, some 2], [some 2], [some 0, some 2]] := by decide

theorem graph_of_not_hasBody (h : ¬ f.HasBody) : f.graph = .error ⟨f.text⟩ := by
  have hnone : f.nodeIn? 0 0 = none := by
    rw [nodeIn?, Option.map_eq_none_iff, Option.eq_none_iff_forall_ne_some]
    exact fun i hi => h ⟨i, hi⟩
  rw [graph, firstOf_rows, hnone]

end

end LeakCheck.Ssa.Function
