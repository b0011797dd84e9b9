import LeakCheck.Suppression.Basic
import Mathlib.Data.List.Chain
import Mathlib.Logic.Relation

/-!
# What a comment reaches

The comments that count at a position are those of a few nodes around it: what is called there, the
name that is selected in it, and the nodes from the innermost one up to the first statement
(`Source.Counts`). `Source.isSuppressedAt_iff` says that nothing else decides, so a comment
elsewhere makes no difference. Nodes stand in nodes, and in this order all that counts stands in one
node, the innermost statement if there is one (`Source.Counts.within`). Whatever does not stand
there, the statements and the function around it included, is of no account
(`Source.suppression_reaches_statement`).
-/

namespace LeakCheck.Suppression

/-- A position lies in a file. -/
def SourceFile.Holds (f : SourceFile) (pos : Pos) : Prop := f.pos ≤ pos ∧ pos ≤ f.stop

/-- The nodes around a position of a file, the innermost first. -/
def SourceFile.path (f : SourceFile) (pos : Pos) : List Nat := (f.paths.lookup pos).getD []

namespace Source

variable {s : Source} {marked path : List Nat} {pos : Pos} {f : SourceFile} {n : Nat}

/-! ## The nodes that count -/

/-- `f` is the first file that a position lies in. -/
def FirstAt (s : Source) (f : SourceFile) (pos : Pos) : Prop :=
  f.Holds pos ∧ ∃ before after, s.files = before ++ f :: after ∧ ∀ g ∈ before, ¬ g.Holds pos

/-- The nodes that count at a position which has the nodes `path` around it. -/
inductive Counts (s : Source) (path : List Nat) : Nat → Prop
  /-- What the innermost node calls. -/
  | callee {call callee : Nat} (hcall : path.head? = some call)
      (hcallee : (s.get call).callee = some callee) : Counts s path callee
  /-- The name that is selected in what the innermost node calls. -/
  | selected {call callee name : Nat} (hcall : path.head? = some call)
      (hcallee : (s.get call).callee = some callee)
      (hname : (s.get callee).selected = some name) : Counts s path name
  /-- A node with no statement below it, other than the outermost one. -/
  | around {inner outer : List Nat} {n : Nat} (hpath : path = inner ++ n :: outer)
      (houter : outer ≠ []) (hinner : ∀ m ∈ inner, (s.get m).isStatement = false) :
      Counts s path n

/-- The nodes that count at a position: those of the first file it lies in. -/
def Region (s : Source) (pos : Pos) (n : Nat) : Prop :=
  ∃ f, s.FirstAt f pos ∧ 2 ≤ (f.path pos).length ∧ s.Counts (f.path pos) n

theorem fileAt?_eq_some : s.fileAt? pos = some f ↔ s.FirstAt f pos := by
  simp only [fileAt?, List.find?_eq_some_iff_append, FirstAt, SourceFile.Holds, Bool.and_eq_true,
    decide_eq_true_eq, Bool.not_eq_true', Bool.and_eq_false_iff, decide_eq_false_iff_not,
    not_and_or]

theorem FirstAt.unique {g : SourceFile} (hg : s.FirstAt g pos) (hf : s.FirstAt f pos) : g = f :=
  Option.some.inj ((fileAt?_eq_some.2 hg).symm.trans (fileAt?_eq_some.2 hf))

theorem FirstAt.mem (h : s.FirstAt f pos) : f ∈ s.files :=
  List.mem_of_find?_eq_some (fileAt?_eq_some.2 h)

theorem isCalleeSuppressed_iff :
    s.isCalleeSuppressed marked path = true ↔
      ∃ call callee, path.head? = some call ∧ (s.get call).callee = some callee ∧
        (callee ∈ marked ∨ ∃ name, (s.get callee).selected = some name ∧ name ∈ marked) := by
  unfold isCalleeSuppressed
  cases hcallee : path.head?.bind fun n => (s.get n).callee with
  | none =>
    simp only [Bool.false_eq_true, false_iff]
    rintro ⟨call, callee, hcall, hcalled, -⟩
    rw [hcall, Option.bind_some, hcalled] at hcallee
    cases hcallee
  | some callee =>
    obtain ⟨call, hcall, hcalled⟩ := Option.bind_eq_some_iff.1 hcallee
    simp [hcall, hcalled, Option.any_eq_true]

theorem isStatementSuppressed_iff :
    s.isStatementSuppressed marked path = true ↔
      ∃ inner n outer, path = inner ++ n :: outer ∧
        (∀ m ∈ inner, (s.get m).isStatement = false) ∧ n ∈ marked := by
  induction path with
  | nil => simp [isStatementSuppressed]
  | cons n rest ih =>
    rw [isStatementSuppressed, Bool.or_eq_true, Bool.and_eq_true, ih, Bool.not_eq_true',
      List.contains_iff_mem]
    constructor
    · rintro (hmarked | ⟨hstatement, inner, m, outer, rfl, hinner, hmarked⟩)
      · exact ⟨[], n, rest, rfl, nofun, hmarked⟩
      · exact ⟨n :: inner, m, outer, rfl, List.forall_mem_cons.2 ⟨hstatement, hinner⟩, hmarked⟩
    · rintro ⟨_ | ⟨n', inner⟩, m, outer, hpath, hinner, hmarked⟩
      · cases hpath
        exact .inl hmarked
      · cases hpath
        obtain ⟨hstatement, hinner⟩ := List.forall_mem_cons.1 hinner
        exact .inr ⟨hstatement, inner, m, outer, rfl, hinner, hmarked⟩

/-- The outermost node of a path is left out. -/
theorem dropLast_eq_append {inner : List Nat} :
    (∃ outer, path.dropLast = inner ++ n :: outer) ↔
      ∃ outer, path = inner ++ n :: outer ∧ outer ≠ [] := by
  constructor
  · rintro ⟨outer, hpath⟩
    rcases path.eq_nil_or_concat' with rfl | ⟨before, last, rfl⟩
    · simp at hpath
    · rw [List.dropLast_concat] at hpath
      exact ⟨outer ++ [last], by simp [hpath], by simp⟩
  · rintro ⟨outer, rfl, houter⟩
    refine ⟨outer.dropLast, ?_⟩
    rw [List.dropLast_append_of_ne_nil (List.cons_ne_nil _ _), List.dropLast_cons_of_ne_nil houter]

theorem isPathSuppressed_iff :
    s.isPathSuppressed marked path = true ↔ 2 ≤ path.length ∧ ∃ n ∈ marked, s.Counts path n := by
  rw [isPathSuppressed, Bool.and_eq_true, decide_eq_true_eq, Bool.or_eq_true,
    isCalleeSuppressed_iff, isStatementSuppressed_iff]
  refine and_congr_right fun _ => ⟨?_, ?_⟩
  · rintro (⟨call, callee, hcall, hcallee, hmarked | ⟨name, hname, hmarked⟩⟩ |
      ⟨inner, n, outer, hpath, hinner, hmarked⟩)
    · exact ⟨callee, hmarked, .callee hcall hcallee⟩
    · exact ⟨name, hmarked, .selected hcall hcallee hname⟩
    · obtain ⟨outer, hpath, houter⟩ := dropLast_eq_append.1 ⟨outer, hpath⟩
      exact ⟨n, hmarked, .around hpath houter hinner⟩
  · rintro ⟨n, hmarked, hcounts⟩
    cases hcounts with
    | callee hcall hcallee => exact .inl ⟨_, _, hcall, hcallee, .inl hmarked⟩
    | selected hcall hcallee hname =>
      exact .inl ⟨_, _, hcall, hcallee, .inr ⟨_, hname, hmarked⟩⟩
    | around hpath houter hinner =>
      obtain ⟨outer, hpath⟩ := dropLast_eq_append.2 ⟨_, hpath, houter⟩
      exact .inr ⟨_, _, outer, hpath, hinner, hmarked⟩

/-- **A position is suppressed iff a node that counts there has a comment.** -/
theorem isSuppressedAt_iff :
    s.isSuppressedAt marked pos = true ↔ pos.isValid = true ∧ ∃ n ∈ marked, s.Region pos n := by
  rw [isSuppressedAt, Bool.and_eq_true]
  refine and_congr_right fun _ => ?_
  cases hfile : s.fileAt? pos with
  | none =>
    simp only [Bool.false_eq_true, false_iff]
    rintro ⟨n, -, f, hfirst, -⟩
    rw [fileAt?_eq_some.2 hfirst] at hfile
    cases hfile
  | some f =>
    have hfirst := fileAt?_eq_some.1 hfile
    change s.isPathSuppressed marked (f.path pos) = true ↔ _
    rw [isPathSuppressed_iff]
    constructor
    · rintro ⟨hlength, n, hmarked, hcounts⟩
      exact ⟨n, hmarked, f, hfirst, hlength, hcounts⟩
    · rintro ⟨n, hmarked, g, hg, hlength, hcounts⟩
      cases hg.unique hfirst
      exact ⟨hlength, n, hmarked, hcounts⟩

theorem isSuppressedAt_mono {more : List Nat} (hmore : marked ⊆ more)
    (h : s.isSuppressedAt marked pos = true) : s.isSuppressedAt more pos = true := by
  obtain ⟨hvalid, n, hn, hregion⟩ := isSuppressedAt_iff.1 h
  exact isSuppressedAt_iff.2 ⟨hvalid, n, hmore hn, hregion⟩

/-- A comment on a node that does not count changes nothing. -/
theorem isSuppressedAt_cons (h : ¬ s.Region pos n) :
    s.isSuppressedAt (n :: marked) pos = s.isSuppressedAt marked pos := by
  rw [Bool.eq_iff_iff, isSuppressedAt_iff, isSuppressedAt_iff]
  refine and_congr_right fun _ => ⟨?_, ?_⟩
  · rintro ⟨m, hm, hregion⟩
    rcases List.mem_cons.1 hm with rfl | hm
    · exact absurd hregion h
    · exact ⟨m, hm, hregion⟩
  · rintro ⟨m, hm, hregion⟩
    exact ⟨m, List.mem_cons_of_mem _ hm, hregion⟩

/-! ## Nodes in nodes -/

/-- `a` stands directly in `b`. -/
def StandsIn (parent : Nat → Option Nat) (a b : Nat) : Prop := parent a = some b

instance (parent : Nat → Option Nat) : DecidableRel (StandsIn parent) :=
  fun a b => inferInstanceAs (Decidable (parent a = some b))

/-- `n` is `t` or stands in it. -/
def Within (parent : Nat → Option Nat) (t n : Nat) : Prop :=
  Relation.ReflTransGen (StandsIn parent) n t

/-- The syntax of a source: every node but the outermost stands in its parent. -/
structure Nests (s : Source) (parent : Nat → Option Nat) : Prop where
  /-- No node stands in itself. -/
  irrefl : ∀ n, ¬ Relation.TransGen (StandsIn parent) n n
  /-- What is called stands in the call. -/
  callee : ∀ call n, (s.get call).callee = some n → StandsIn parent n call
  /-- The name that is selected stands where it is selected. -/
  selected : ∀ m n, (s.get m).selected = some n → StandsIn parent n m
  /-- The nodes around a position stand in each other. -/
  path : ∀ f ∈ s.files, ∀ pos, (f.path pos).IsChain (StandsIn parent)

/-- The node that comments at a position reach up to: the innermost statement around it, or without
one the node that stands in the outermost one. -/
def IsScope (s : Source) (path : List Nat) (t : Nat) : Prop :=
  ∃ inner outer, path = inner ++ t :: outer ∧ outer ≠ [] ∧
    (∀ m ∈ inner, (s.get m).isStatement = false) ∧
    ((s.get t).isStatement = true ∨ outer.length = 1)

/-- Nodes that do not stand in the scope `t` of a position. -/
inductive Beyond (parent : Nat → Option Nat) (path : List Nat) (t : Nat) : Nat → Prop
  /-- A node around the scope: a statement, a function, the file. -/
  | enclosing {inner outer : List Nat} {n : Nat} (hpath : path = inner ++ t :: outer)
      (hn : n ∈ outer) : Beyond parent path t n
  /-- Another node that stands directly in the same node. -/
  | sibling {n : Nat} (hparent : parent n = parent t) (hn : n ≠ t) : Beyond parent path t n
  /-- A node of another file. -/
  | elsewhere {file n : Nat} (hfile : path.getLast? = some file) (hn : ¬ Within parent file n) :
      Beyond parent path t n

variable {parent : Nat → Option Nat} {t : Nat}

/-- In the nodes around a position each stands in all that follow it. -/
theorem pairwise_of_chain (h : path.IsChain (StandsIn parent)) :
    path.Pairwise (Relation.TransGen (StandsIn parent)) :=
  List.isChain_iff_pairwise.1 (h.imp fun _ _ => .single)

theorem transGen_of_chain {inner outer : List Nat}
    (h : (inner ++ t :: outer).IsChain (StandsIn parent)) :
    (∀ m ∈ inner, Relation.TransGen (StandsIn parent) m t) ∧
      ∀ m ∈ outer, Relation.TransGen (StandsIn parent) t m := by
  obtain ⟨-, houter, hinner⟩ := List.pairwise_append.1 (pairwise_of_chain h)
  exact ⟨fun m hm => hinner m hm t (List.mem_cons_self ..), (List.pairwise_cons.1 houter).1⟩

/-- No node of a path that counts comes after the scope. -/
theorem IsScope.mem_inner {inner outer : List Nat} (h : s.IsScope path t)
    (hpath : path = inner ++ n :: outer) (houter : outer ≠ [])
    (hinner : ∀ m ∈ inner, (s.get m).isStatement = false) :
    ∃ below above, path = below ++ t :: above ∧ (n = t ∨ n ∈ below) := by
  obtain ⟨below, above, rfl, -, -, hscope⟩ := h
  refine ⟨below, above, rfl, ?_⟩
  rcases List.append_eq_append_iff.1 hpath with ⟨mid, rfl, hmid⟩ | ⟨mid, rfl, hmid⟩
  · cases mid with
    | nil => exact .inl (List.cons.inj hmid).1.symm
    | cons t' mid =>
      -- `t` would be a node below `n`, so no statement, and `n` the outermost node
      rw [List.cons_append] at hmid
      obtain ⟨rfl, rfl⟩ := List.cons.inj hmid
      have hlength := hscope.resolve_left (by simp [hinner t (by simp)])
      rw [List.length_append, List.length_cons] at hlength
      exact absurd (List.length_eq_zero_iff.1 (by omega)) houter
  · cases mid with
    | nil => exact .inl (List.cons.inj hmid).1
    | cons n' mid =>
      obtain ⟨rfl, -⟩ := List.cons.inj hmid
      exact .inr (by simp)

theorem exists_isScope (h : 2 ≤ path.length) : ∃ t, s.IsScope path t := by
  induction path with
  | nil => cases h
  | cons n rest ih =>
    have hrest : rest ≠ [] := fun hnil => by simp [hnil] at h
    cases hstatement : (s.get n).isStatement with
    | true => exact ⟨n, [], rest, rfl, hrest, nofun, .inl hstatement⟩
    | false =>
      by_cases hlength : rest.length = 1
      · exact ⟨n, [], rest, rfl, hrest, nofun, .inr hlength⟩
      · have hpos := List.length_pos_iff.2 hrest
        obtain ⟨t, inner, outer, rfl, houter, hinner, hscope⟩ := ih (by omega)
        exact ⟨t, n :: inner, outer, rfl, houter, List.forall_mem_cons.2 ⟨hstatement, hinner⟩,
          hscope⟩

/-- **All that counts at a position stands in its scope.** -/
theorem Counts.within (hnests : s.Nests parent) (hchain : path.IsChain (StandsIn parent))
    (hscope : s.IsScope path t) (h : s.Counts path n) : Within parent t n := by
  have hhead : ∀ call, path.head? = some call → Within parent t call := by
    intro call hcall
    obtain ⟨inner, outer, rfl, -⟩ := hscope
    cases inner with
    | nil =>
      cases hcall
      exact .refl
    | cons m inner =>
      cases hcall
      exact ((transGen_of_chain hchain).1 _ (List.mem_cons_self ..)).to_reflTransGen
  cases h with
  | callee hcall hcallee => exact .head (hnests.callee _ _ hcallee) (hhead _ hcall)
  | selected hcall hcallee hname =>
    exact .head (hnests.selected _ _ hname) (.head (hnests.callee _ _ hcallee) (hhead _ hcall))
  | around hpath houter hinner =>
    obtain ⟨below, above, rfl, rfl | hbelow⟩ := hscope.mem_inner hpath houter hinner
    · exact .refl
    · exact ((transGen_of_chain hchain).1 n hbelow).to_reflTransGen

theorem Beyond.not_within (hnests : s.Nests parent) (hchain : path.IsChain (StandsIn parent))
    (hscope : s.IsScope path t) (h : Beyond parent path t n) : ¬ Within parent t n := by
  intro hwithin
  cases h with
  | enclosing hpath hn =>
    rw [hpath] at hchain
    exact hnests.irrefl t (((transGen_of_chain hchain).2 n hn).trans_left hwithin)
  | sibling hparent hn =>
    rcases hwithin.cases_head with rfl | ⟨m, hm, hwithin⟩
    · exact hn rfl
    · exact hnests.irrefl t (.head' (hparent.symm.trans hm) hwithin)
  | @elsewhere file _ hfile hn =>
    obtain ⟨inner, outer, rfl, houter, -⟩ := hscope
    have hmem : file ∈ outer := by
      rw [List.getLast?_append, List.getLast?_cons, List.getLast?_eq_some_getLast houter] at hfile
      cases hfile
      exact List.getLast_mem houter
    exact hn (hwithin.trans ((transGen_of_chain hchain).2 file hmem).to_reflTransGen)

/-- **A comment silences only its own statement.** A position is suppressed iff it is valid, lies in
a file, has at least two nodes around it in the first such file, and a node that counts there has a
suppressing comment. So more comments never make a report come back, and a comment on a node that
does not count changes nothing. With nodes in nodes the position has a scope, and a comment on what
does not stand in it changes nothing: on the nodes around the scope, on those beside it and on those
of other files. -/
theorem suppression_reaches_statement (s : Source) (marked : List Nat) (pos : Pos) :
    (s.isSuppressedAt marked pos = true ↔
      pos.isValid = true ∧ ∃ f, s.FirstAt f pos ∧ 2 ≤ (f.path pos).length ∧
        ∃ n ∈ marked, s.Counts (f.path pos) n) ∧
    (∀ more, marked ⊆ more → s.isSuppressedAt marked pos = true →
      s.isSuppressedAt more pos = true) ∧
    (∀ n, ¬ s.Region pos n →
      s.isSuppressedAt (n :: marked) pos = s.isSuppressedAt marked pos) ∧
    ∀ parent, s.Nests parent → ∀ f, s.FirstAt f pos →
      (2 ≤ (f.path pos).length → ∃ t, s.IsScope (f.path pos) t) ∧
      ∀ t, s.IsScope (f.path pos) t →
        (∀ n, ¬ Within parent t n →
          s.isSuppressedAt (n :: marked) pos = s.isSuppressedAt marked pos) ∧
        ∀ n, Beyond parent (f.path pos) t n → ¬ Within parent t n := by
  refine ⟨?_, fun more => isSuppressedAt_mono, fun n => isSuppressedAt_cons, ?_⟩
  · rw [isSuppressedAt_iff]
    refine and_congr_right fun _ => ⟨?_, ?_⟩
    · rintro ⟨n, hn, f, hfirst, hlength, hcounts⟩
      exact ⟨f, hfirst, hlength, n, hn, hcounts⟩
    · rintro ⟨f, hfirst, hlength, n, hn, hcounts⟩
      exact ⟨n, hn, f, hfirst, hlength, hcounts⟩
  · intro parent hnests f hfirst
    have hchain := hnests.path f hfirst.mem pos
    refine ⟨exists_isScope, fun t hscope => ⟨fun n hn => isSuppressedAt_cons ?_, fun n => ?_⟩⟩
    · rintro ⟨g, hg, -, hcounts⟩
      cases hg.unique hfirst
      exact hn (hcounts.within hnests hchain hscope)
    · exact Beyond.not_within hnests hchain hscope

/-! ## A call in a condition -/

namespace Sample

/-- A function with a condition, and in the block of that the call `6` of a method at position 50,
which is the statement `5`, and another statement, `9`. -/
def logging : Source where
  files := [{ pos := 1, stop := 99, paths := [(50, [6, 5, 4, 3, 2, 1, 0])] }]
  nodes := #[⟨"File", 1, 99, false, none, none⟩, ⟨"FuncDecl", 10, 90, false, none, none⟩,
    ⟨"BlockStmt", 20, 90, true, none, none⟩, ⟨"IfStmt", 30, 80, true, none, none⟩,
    ⟨"BlockStmt", 40, 80, true, none, none⟩, ⟨"ExprStmt", 50, 60, true, none, none⟩,
    ⟨"CallExpr", 50, 60, false, some 7, none⟩, ⟨"SelectorExpr", 50, 55, false, none, some 8⟩,
    ⟨"Ident", 52, 55, false, none, none⟩, ⟨"ExprStmt", 65, 75, true, none, none⟩]

/-- What the nodes stand in. -/
def loggingParent (n : Nat) : Option Nat :=
  if n = 9 then some 4 else if 0 < n ∧ n < 9 then some (n - 1) else none

theorem loggingParent_lt {a b : Nat} (h : loggingParent a = some b) : b < a := by
  unfold loggingParent at h
  split at h
  · cases h
    omega
  · split at h
    · cases h
      omega
    · cases h

/-- What is called and what is selected stands in the node that does so. -/
theorem logging_parts (m n : Nat)
    (h : (logging.get m).callee = some n ∨ (logging.get m).selected = some n) :
    StandsIn loggingParent n m := by
  by_cases hm : m < 10
  · have hparts : ∀ m < 10, (∀ n ∈ (logging.get m).callee, StandsIn loggingParent n m) ∧
        ∀ n ∈ (logging.get m).selected, StandsIn loggingParent n m := by decide
    exact h.elim ((hparts m hm).1 n) ((hparts m hm).2 n)
  · rw [Source.get, Array.getElem?_eq_none (Nat.le_of_not_lt hm)] at h
    exact h.elim nofun nofun

theorem logging_nests : logging.Nests loggingParent where
  irrefl n h := by
    have hlt : ∀ {a b}, Relation.TransGen (StandsIn loggingParent) a b → b < a := by
      intro a b h
      induction h with
      | single h => exact loggingParent_lt h
      | tail _ h ih => exact (loggingParent_lt h).trans ih
    exact lt_irrefl n (hlt h)
  callee m n h := logging_parts m n (.inl h)
  selected m n h := logging_parts m n (.inr h)
  path f hf pos := by
    cases List.mem_singleton.1 hf
    by_cases hpos : pos = 50
    · subst hpos
      decide
    · rw [SourceFile.path, List.lookup_cons, beq_false_of_ne hpos]
      exact .nil

/-- A comment on the name of the method suppresses the report of the call. One on the other
statement, the condition, a block, the function or the file does not. -/
theorem logging_reaches_statement :
    logging.isSuppressedAt [8] 50 = true ∧
      ∀ n ∈ [0, 1, 2, 3, 4, 9], logging.isSuppressedAt [n] 50 = false := by
  have hfirst : ∃ f, logging.FirstAt f 50 ∧ f.path 50 = [6, 5, 4, 3, 2, 1, 0] :=
    ⟨_, ⟨⟨by decide, by decide⟩, [], [], rfl, nofun⟩, rfl⟩
  obtain ⟨f, hfirst, hpath⟩ := hfirst
  have hscope : logging.IsScope (f.path 50) 5 :=
    ⟨[6], [4, 3, 2, 1, 0], hpath, nofun, by decide, .inl rfl⟩
  have hbeyond : ∀ n ∈ [0, 1, 2, 3, 4, 9], Beyond loggingParent (f.path 50) 5 n := by
    intro n hn
    by_cases hsibling : n = 9
    · exact .sibling (by rw [hsibling]; rfl) (by omega)
    · refine .enclosing (show f.path 50 = [6] ++ 5 :: [4, 3, 2, 1, 0] from hpath) ?_
      simp at hn ⊢
      omega
  have hcounts : logging.Counts (f.path 50) 8 := by
    have hcall : (f.path 50).head? = some 6 := by rw [hpath]; rfl
    have hcallee : (logging.get 6).callee = some 7 := rfl
    exact .selected hcall hcallee rfl
  refine ⟨?_, fun n hn => ?_⟩
  · exact (logging.suppression_reaches_statement [8] 50).1.2
      ⟨rfl, f, hfirst, by rw [hpath]; decide, 8, List.mem_singleton_self 8, hcounts⟩
  · obtain ⟨-, -, -, htree⟩ := logging.suppression_reaches_statement [] 50
    obtain ⟨hwithin, hreached⟩ := (htree loggingParent logging_nests f hfirst).2 5 hscope
    rw [hwithin n (hreached n (hbeyond n hn))]
    rfl

end Sample

end Source

end LeakCheck.Suppression
