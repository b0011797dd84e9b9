import LeakCheck.Proofs.Leak.Order
import LeakCheck.Proofs.Text.ByteOrder

/-!
# What a collector lists

A collector is told of leaks and asked for lists, in any order. `Collector.Lists` says which list it
has to give: the distinct leaks that were reported, by the position of the site, then by the bytes
of the text, then by the first report. No two lists satisfy this (`Collector.Lists.unique`), and the
one that a collector gives does (`Collector.lists_leaks`), since its sort keeps the order of leaks
that share position and text (`Leak.filter_sort`). To be asked does not change a collector, so a
list can be left out of a sequence of requests without a trace (`Collector.lists_canonical`).
-/

namespace LeakCheck.Collector

/-! ## Canonical lists -/

/-- `a` is listed before `b` after these reports: its site stands before that of `b`, or at the same
position and its text is smaller, byte by byte, or both agree and it was first reported before. -/
def Precedes (reported : List Leak) (a b : Leak) : Prop :=
  a.site.pos < b.site.pos ∨ a.site.pos = b.site.pos ∧
    (Text.bytes a.text < Text.bytes b.text ∨
      a.text = b.text ∧ reported.idxOf a < reported.idxOf b)

/-- The canonical list of what was reported. -/
structure Lists (reported leaks : List Leak) : Prop where
  /-- No leak is listed twice. -/
  nodup : leaks.Nodup
  /-- The leaks that are listed are those that were reported. -/
  mem : ∀ leak, leak ∈ leaks ↔ leak ∈ reported
  /-- They are listed in their order. -/
  order : leaks.Pairwise (Precedes reported)

theorem Precedes.asymm {reported : List Leak} {a b : Leak} (hab : Precedes reported a b) :
    ¬ Precedes reported b a := by
  rintro (hpos | ⟨hpos, htext | ⟨htext, hfirst⟩⟩)
  · rcases hab with hlt | ⟨heq, -⟩
    · exact lt_asymm hlt hpos
    · exact hpos.ne heq.symm
  · rcases hab with hlt | ⟨-, hlt | ⟨heq, -⟩⟩
    · exact hlt.ne hpos.symm
    · exact List.lt_asymm htext hlt
    · rw [heq] at htext
      exact List.lt_irrefl _ htext
  · rcases hab with hlt | ⟨-, hlt | ⟨-, hlt⟩⟩
    · exact hlt.ne hpos.symm
    · rw [htext] at hlt
      exact List.lt_irrefl _ hlt
    · exact lt_asymm hlt hfirst

/-- There is no other canonical list. -/
theorem Lists.unique {reported leaks others : List Leak} (h : Lists reported leaks)
    (h' : Lists reported others) : leaks = others := by
  have hperm : leaks.Perm others := by
    rw [List.perm_ext_iff_of_nodup h.nodup h'.nodup]
    intro leak
    rw [h.mem, h'.mem]
  refine hperm.eq_of_pairwise ?_ h.order h'.order
  intro a b _ _ hab hba
  exact absurd hba hab.asymm

/-- Leaks in the order of their keys that are first reported in their order are in their order. -/
theorem precedes_of_key {reported : List Leak} {a b : Leak} (hkey : a.key ≤ b.key)
    (hfirst : a.key = b.key → reported.idxOf a < reported.idxOf b) : Precedes reported a b := by
  rw [Leak.key, Leak.key, Prod.Lex.toLex_le_toLex] at hkey
  rcases hkey with hpos | ⟨hpos, htext⟩
  · exact .inl hpos
  · refine .inr ⟨hpos, ?_⟩
    rcases lt_or_eq_of_le htext with hlt | heq
    · exact .inl ((Text.lt_iff_bytes_lt _ _).1 hlt)
    · exact .inr ⟨heq, hfirst (congrArg₂ (fun pos text => toLex (pos, text)) hpos heq)⟩

/-- Two leaks with one key that are sorted one after the other were so before. -/
theorem sublist_of_sort {leaks : List Leak} {a b : Leak} (h : [a, b].Sublist (Leak.sort leaks))
    (hkey : a.key = b.key) : [a, b].Sublist leaks := by
  have hfilter := h.filter (·.key = b.key)
  rw [Leak.filter_sort] at hfilter
  simp only [List.filter_cons, hkey, decide_true, if_true, List.filter_nil] at hfilter
  exact hfilter.trans List.filter_sublist

/-- **A collector gives the canonical list** of what it received. -/
theorem lists_leaks (c : Collector) : Lists c.received c.leaks := by
  refine ⟨c.nodup_leaks, fun leak => mem_leaks, ?_⟩
  rw [leaks, List.pairwise_iff_forall_sublist]
  intro a b hab
  refine precedes_of_key (List.pairwise_iff_forall_sublist.1 (Leak.pairwise_sort _) hab) ?_
  intro hkey
  exact List.pairwise_iff_forall_sublist.1 (pairwise_idxOf_eraseDups c.received)
    (sublist_of_sort hab hkey)

/-! ## Sequences of requests -/

/-- What a collector is told or asked. -/
inductive Request where
  /-- It is told of a leak. -/
  | report (leak : Leak)
  /-- It is asked for its leaks. -/
  | list

/-- The collector after a request, and the list that it gives if it is asked for one. -/
def serve (c : Collector) : Request → Option (List Leak) × Collector
  | .report leak => (none, c.report leak)
  | .list => (some c.leaks, c)

/-- What a collector answers to requests, one after the other. -/
def answers (c : Collector) : List Request → List (Option (List Leak))
  | [] => []
  | r :: rest => (c.serve r).1 :: answers (c.serve r).2 rest

/-- The collector after requests. -/
def after (c : Collector) (requests : List Request) : Collector :=
  requests.foldl (fun c r => (c.serve r).2) c

/-- The leaks that requests tell of, in their order. -/
def reported (requests : List Request) : List Leak :=
  requests.filterMap fun
    | .report leak => some leak
    | .list => none

theorem received_after (c : Collector) (requests : List Request) :
    (c.after requests).received = c.received ++ reported requests := by
  induction requests generalizing c with
  | nil => exact (List.append_nil _).symm
  | cons r rest ih =>
    rw [after, List.foldl_cons, ← after, ih]
    cases r with
    | report leak => simp [serve, report, reported]
    | list => rfl

theorem answers_append (c : Collector) (requests more : List Request) :
    c.answers (requests ++ more) = c.answers requests ++ (c.after requests).answers more := by
  induction requests generalizing c with
  | nil => rfl
  | cons r rest ih => rw [List.cons_append, answers, answers, ih, List.cons_append]; rfl

/-- **Each list that a collector gives is the canonical list of what was reported before**, whatever
else it was asked, and there is no other such list. Without the request all other answers are the
same. -/
theorem lists_canonical (requests more : List Request) :
    ∃ leaks later,
      answers {} (requests ++ .list :: more) = answers {} requests ++ some leaks :: later ∧
      answers {} (requests ++ more) = answers {} requests ++ later ∧
      Lists (reported requests) leaks ∧
      ∀ others, Lists (reported requests) others → others = leaks := by
  have hreceived : (after {} requests).received = reported requests := received_after {} requests
  have hlists := lists_leaks (after {} requests)
  rw [hreceived] at hlists
  refine ⟨(after {} requests).leaks, (after {} requests).answers more, ?_, ?_, hlists, ?_⟩
  · rw [answers_append]
    rfl
  · exact answers_append {} requests more
  · intro others hothers
    exact hothers.unique hlists

end LeakCheck.Collector
