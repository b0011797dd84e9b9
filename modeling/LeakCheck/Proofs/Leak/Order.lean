import LeakCheck.Proofs.Leak.Collector
import LeakCheck.Proofs.Text.ByteOrder
import Mathlib.Data.Prod.Lex

/-!
# The order in which leaks are listed

Leaks are listed by their key, the position of the site and the text. Keys are ordered linearly,
but two leaks may share one: instances of a generic function are shown alike and stand at one
place. The sort is stable, so for each key it leaves the leaks with that key in the order in which
they came (`Leak.filter_sort`), and a sorted list is determined by these parts
(`Leak.eq_of_filter_key`). Hence what a collector lists after the same reports in another order
differs at most among leaks that share a key (`Collector.leaks_perm_reports`), and there it may
differ (`Collector.leaks_swapped`).
-/

namespace LeakCheck

namespace Leak

/-- What leaks are ordered by: first the position of the site, then the text. -/
def key (leak : Leak) : Lex (Pos × String) := toLex (leak.site.pos, leak.text)

theorem le_iff (a b : Leak) : a.le b = true ↔ a.key ≤ b.key := by
  rw [key, key, Prod.Lex.toLex_le_toLex, le]
  split
  case isTrue hpos => simp [hpos, Text.le_iff]
  case isFalse hpos => simp [hpos]

theorem le_trans (a b c : Leak) (hab : a.le b = true) (hbc : b.le c = true) : a.le c = true :=
  (le_iff a c).2 (((le_iff a b).1 hab).trans ((le_iff b c).1 hbc))

theorem le_or_le (a b : Leak) : (a.le b || b.le a) = true := by
  rw [Bool.or_eq_true, le_iff, le_iff]
  exact le_total a.key b.key

theorem sort_perm (leaks : List Leak) : (sort leaks).Perm leaks :=
  List.mergeSort_perm _ _

theorem pairwise_sort (leaks : List Leak) :
    (sort leaks).Pairwise fun a b => a.key ≤ b.key :=
  (List.pairwise_mergeSort le_trans le_or_le leaks).imp fun h => (le_iff _ _).1 h

theorem sort_eq_self {leaks : List Leak} (h : leaks.Pairwise fun a b => a.key ≤ b.key) :
    sort leaks = leaks :=
  List.mergeSort_of_pairwise (h.imp fun hab => (le_iff _ _).2 hab)

/-- Leaks with one key stay in the order they have. -/
theorem filter_sort (leaks : List Leak) (k : Lex (Pos × String)) :
    (sort leaks).filter (·.key = k) = leaks.filter (·.key = k) := by
  have hkey : ∀ a ∈ leaks.filter (·.key = k), a.key = k := by
    intro a ha
    simpa using (List.mem_filter.1 ha).2
  have hsorted : (leaks.filter (·.key = k)).Pairwise fun a b => a.le b = true := by
    refine List.pairwise_of_forall_mem_list fun a ha b hb => ?_
    rw [le_iff, hkey a ha, hkey b hb]
  have hsub : (leaks.filter (·.key = k)).Sublist (sort leaks) :=
    List.sublist_mergeSort le_trans le_or_le hsorted List.filter_sublist
  have hfilter := hsub.filter (·.key = k)
  rw [List.filter_filter] at hfilter
  simp only [Bool.and_self] at hfilter
  exact (hfilter.eq_of_length (((sort_perm leaks).filter _).length_eq).symm).symm

/-- Two sorted lists are equal if they hold, for each key, the same leaks in the same order. -/
theorem eq_of_filter_key : ∀ {as bs : List Leak},
    as.Pairwise (fun a b => a.key ≤ b.key) → bs.Pairwise (fun a b => a.key ≤ b.key) →
    (∀ k, as.filter (·.key = k) = bs.filter (·.key = k)) → as = bs
  | [], [], _, _, _ => rfl
  | [], b :: bs, _, _, h => by
    have hb : b ∈ (b :: bs).filter (·.key = b.key) := by simp
    rw [← h b.key] at hb
    cases hb
  | a :: as, [], _, _, h => by
    have ha : a ∈ (a :: as).filter (·.key = a.key) := by simp
    rw [h a.key] at ha
    cases ha
  | a :: as, b :: bs, has, hbs, h => by
    obtain ⟨hale, hasTail⟩ := List.pairwise_cons.1 has
    obtain ⟨hble, hbsTail⟩ := List.pairwise_cons.1 hbs
    -- each head stands in the other list, so neither key is below the other
    have hab : a.key ≤ b.key := by
      have hb : b ∈ (b :: bs).filter (·.key = b.key) := by simp
      rw [← h b.key] at hb
      rcases List.mem_cons.1 (List.mem_filter.1 hb).1 with rfl | hmem
      · exact le_refl _
      · exact hale b hmem
    have hba : b.key ≤ a.key := by
      have ha : a ∈ (a :: as).filter (·.key = a.key) := by simp
      rw [h a.key] at ha
      rcases List.mem_cons.1 (List.mem_filter.1 ha).1 with rfl | hmem
      · exact le_refl _
      · exact hble a hmem
    have hkey : a.key = b.key := le_antisymm hab hba
    have hheads := h b.key
    simp only [List.filter_cons, hkey, decide_true, if_true, List.cons.injEq] at hheads
    obtain ⟨rfl, htail⟩ := hheads
    refine congrArg (a :: ·) (eq_of_filter_key hasTail hbsTail fun k => ?_)
    by_cases hk : a.key = k
    · rw [← hk]
      exact htail
    · have hrest := h k
      simpa only [List.filter_cons, hk, decide_false, Bool.false_eq_true, if_false] using hrest

/-- The sorted list depends on the given one only through the order within each key. -/
theorem sort_eq_iff {as bs : List Leak} :
    sort as = sort bs ↔ ∀ k, as.filter (·.key = k) = bs.filter (·.key = k) := by
  refine ⟨fun h k => ?_, fun h => ?_⟩
  · rw [← filter_sort as, ← filter_sort bs, h]
  · refine eq_of_filter_key (pairwise_sort as) (pairwise_sort bs) fun k => ?_
    rw [filter_sort, filter_sort, h k]

/-- Whatever order leaks are given in, the same keys come out at the same places. -/
theorem map_key_sort {as bs : List Leak} (h : as.Perm bs) :
    (sort as).map key = (sort bs).map key := by
  have hperm : (sort as).Perm (sort bs) := ((sort_perm as).trans h).trans (sort_perm bs).symm
  exact Text.map_key_eq_of_perm hperm (pairwise_sort as) (pairwise_sort bs)

/-- Dropping repetitions from the same leaks in another order leaves the same leaks. -/
theorem eraseDups_perm {as bs : List Leak} (h : as.Perm bs) : as.eraseDups.Perm bs.eraseDups :=
  (List.perm_ext_iff_of_nodup (nodup_eraseDups as) (nodup_eraseDups bs)).2 fun leak => by
    rw [List.mem_eraseDups, List.mem_eraseDups, h.mem_iff]

/-- Where no two distinct leaks share a key there is nothing to be ordered within it. -/
theorem filter_key_eq_of_perm {as bs : List Leak} (h : as.Perm bs)
    (hinj : ∀ a ∈ as, ∀ b ∈ as, a.key = b.key → a = b) (k : Lex (Pos × String)) :
    as.filter (·.key = k) = bs.filter (·.key = k) := by
  have hperm := h.filter (·.key = k)
  have hone : ∀ a ∈ as.filter (·.key = k), ∀ b ∈ as.filter (·.key = k), a = b := by
    intro a ha b hb
    simp only [List.mem_filter, decide_eq_true_eq] at ha hb
    exact hinj a ha.1 b hb.1 (ha.2.trans hb.2.symm)
  refine hperm.eq_of_pairwise (fun _ _ _ _ (hab : _ = _) _ => hab) ?_ ?_
  · exact List.pairwise_of_forall_mem_list hone
  · exact List.pairwise_of_forall_mem_list fun a ha b hb =>
      hone a (hperm.mem_iff.2 ha) b (hperm.mem_iff.2 hb)

end Leak

namespace Collector

/-- The collector that received the given leaks, one after the other. -/
def ofReports (calls : List Leak) : Collector := calls.foldl report {}

theorem received_foldl_report (calls : List Leak) (c : Collector) :
    (calls.foldl report c).received = c.received ++ calls := by
  induction calls generalizing c with
  | nil => simp
  | cons leak rest ih => rw [List.foldl_cons, ih]; simp [report]

@[simp] theorem received_ofReports (calls : List Leak) : (ofReports calls).received = calls := by
  simp [ofReports, received_foldl_report]

theorem leaks_ofReports (calls : List Leak) :
    (ofReports calls).leaks = Leak.sort calls.eraseDups := by
  rw [leaks, received_ofReports]

/-- After the same reports in another order a collector lists the same leaks, with the same
position and text at every place. Leaks that share both stand in the order of their first reports,
so the two lists are equal if and only if these orders agree, and always if no two distinct leaks
share both. -/
theorem leaks_perm_reports {calls calls' : List Leak} (h : calls.Perm calls') :
    (ofReports calls).leaks.Perm (ofReports calls').leaks ∧
    (ofReports calls).leaks.map Leak.key = (ofReports calls').leaks.map Leak.key ∧
    (∀ k, (ofReports calls).leaks.filter (·.key = k) = calls.eraseDups.filter (·.key = k)) ∧
    ((ofReports calls).leaks = (ofReports calls').leaks ↔
      ∀ k, calls.eraseDups.filter (·.key = k) = calls'.eraseDups.filter (·.key = k)) ∧
    ((∀ a ∈ calls, ∀ b ∈ calls, a.key = b.key → a = b) →
      (ofReports calls).leaks = (ofReports calls').leaks) := by
  have hdistinct := Leak.eraseDups_perm h
  simp only [leaks_ofReports]
  refine ⟨?_, Leak.map_key_sort hdistinct, Leak.filter_sort _, Leak.sort_eq_iff, fun hinj => ?_⟩
  · exact ((Leak.sort_perm _).trans hdistinct).trans (Leak.sort_perm _).symm
  · refine Leak.sort_eq_iff.2 (Leak.filter_key_eq_of_perm hdistinct fun a ha b hb => ?_)
    exact hinj a (List.mem_eraseDups.1 ha) b (List.mem_eraseDups.1 hb)

namespace Sample

/-- An instance of a generic function at a type declared within another function. Two such types
may have one name, and then the instances are shown alike. -/
def instanceOf (id : Nat) : Procedure := ⟨id, "p.F[p.T]", 5⟩

/-- The leak of an instance: its statements are its own, and are shown as in every instance. -/
def leakIn (id : Nat) : Leak :=
  ⟨instanceOf id, some ⟨2 * id, "t0 = getSecret()", 10⟩, some ⟨2 * id + 1, "return t0", 20⟩⟩

/-- A leak at a later statement. -/
def later : Leak :=
  ⟨⟨2, "p.G", 30⟩, some ⟨4, "t0 = getSecret()", 40⟩, some ⟨5, "return t0", 50⟩⟩

end Sample

open Sample

/-- Two instances shown alike leak, and each order of their reports gives a list of its own. -/
theorem leaks_swapped :
    ([leakIn 0, leakIn 1] : List Leak).Perm [leakIn 1, leakIn 0] ∧
    (ofReports [leakIn 0, leakIn 1]).leaks = [leakIn 0, leakIn 1] ∧
    (ofReports [leakIn 1, leakIn 0]).leaks = [leakIn 1, leakIn 0] ∧
    [leakIn 0, leakIn 1] ≠ [leakIn 1, leakIn 0] := by
  -- leaks with one key are sorted as they come
  have hkept : ∀ {i j}, leakIn j ≠ leakIn i →
      (ofReports [leakIn i, leakIn j]).leaks = [leakIn i, leakIn j] := by
    intro i j hne
    have hdistinct : [leakIn i, leakIn j].eraseDups = [leakIn i, leakIn j] := by
      simp [List.eraseDups_cons, hne]
    have hkey : (leakIn i).key ≤ (leakIn j).key := le_refl _
    rw [leaks_ofReports, hdistinct]
    exact Leak.sort_eq_self (by simpa using hkey)
  exact ⟨by decide, hkept (by decide), hkept (by decide), by decide⟩

/-- Reports in two orders of three leaks, two of which share their key and come in both orders; and
in two orders of two leaks with keys of their own. -/
theorem leaks_perm_reports_sample :
    ((ofReports [later, leakIn 1, leakIn 0, leakIn 1]).leaks.map Leak.key =
        (ofReports [leakIn 0, leakIn 1, leakIn 1, later]).leaks.map Leak.key ∧
      (ofReports [later, leakIn 1, leakIn 0, leakIn 1]).leaks.filter (·.key = (leakIn 0).key) =
        [leakIn 1, leakIn 0]) ∧
    (ofReports [later, leakIn 1]).leaks = (ofReports [leakIn 1, later]).leaks := by
  have hmixed : [later, leakIn 1, leakIn 0, leakIn 1].Perm [leakIn 0, leakIn 1, leakIn 1, later] :=
    by decide
  have happart : [later, leakIn 1].Perm [leakIn 1, later] := by decide
  obtain ⟨-, hkeys, hties, -⟩ := leaks_perm_reports hmixed
  obtain ⟨-, -, -, -, hequal⟩ := leaks_perm_reports happart
  refine ⟨⟨hkeys, ?_⟩, hequal ?_⟩
  · rw [hties]
    decide +kernel
  · decide

end Collector
end LeakCheck
