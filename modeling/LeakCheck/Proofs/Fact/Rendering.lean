import LeakCheck.Proofs.Fact.Members
import LeakCheck.Proofs.Text.ByteOrder

/-!
# How sets of facts are shown

A set is shown by the texts of its members in ascending order. Distinct facts may have one text: the
slots of two variables may have one name, and two statements may be shown alike. Then the order of
the texts does not say which of the facts comes first, and this is left to the order in which the
members are taken and to the sort. `FactSet.Lists` says what is not left open. The lists that
satisfy it are those that come out for some order of the members
(`FactSet.lists_iff_exists_sorted`), and all of them show the same texts
(`FactSet.Lists.map_text_eq`). So what is shown depends on the members alone
(`FactSet.rendering_canonical`).
-/

namespace LeakCheck.FactSet

/-- A list of the members by their texts. Members with one text may stand in any order. -/
structure Lists (s : FactSet) (facts : List Fact) : Prop where
  /-- No fact is listed twice. -/
  nodup : facts.Nodup
  /-- The facts that are listed are the members. -/
  mem : ∀ f, f ∈ facts ↔ f ∈ s.members
  /-- The bytes of their texts ascend. -/
  ascending : facts.Pairwise fun f g => Text.bytes f.text ≤ Text.bytes g.text

/-- How facts are shown one after the other. -/
def bracketed (facts : List Fact) : String := "[" ++ " ".intercalate (facts.map Fact.text) ++ "]"

section
variable {s t : FactSet} {facts others : List Fact}

/-- The members by their texts are the members in another order, sorted. -/
theorem lists_iff_perm :
    s.Lists facts ↔ facts.Perm s.facts ∧ facts.Pairwise fun f g => f.text ≤ g.text := by
  simp only [Text.le_iff_bytes_le]
  constructor
  · intro h
    refine ⟨?_, h.ascending⟩
    rw [List.perm_ext_iff_of_nodup h.nodup s.nodup]
    intro f
    rw [h.mem, mem_members, has_iff]
  · rintro ⟨hperm, hascending⟩
    refine ⟨hperm.nodup_iff.2 s.nodup, fun f => ?_, hascending⟩
    rw [hperm.mem_iff, mem_members, has_iff]

/-- Only the members count. -/
theorem Lists.of_members_eq (h : s.Lists facts) (hmembers : s.members = t.members) :
    t.Lists facts :=
  ⟨h.nodup, fun f => hmembers ▸ h.mem f, h.ascending⟩

/-- **All lists of the members by text show the same texts.** -/
theorem Lists.map_text_eq (h : s.Lists facts) (h' : s.Lists others) :
    facts.map Fact.text = others.map Fact.text := by
  obtain ⟨hperm, hsorted⟩ := lists_iff_perm.1 h
  obtain ⟨hperm', hsorted'⟩ := lists_iff_perm.1 h'
  exact Text.map_key_eq_of_perm (hperm.trans hperm'.symm) hsorted hsorted'

theorem lists_sorted (s : FactSet) : s.Lists s.sorted :=
  lists_iff_perm.2 ⟨Text.sortByText_perm _ _, Text.pairwise_sortByText _ _⟩

/-- A list of the members by text is what the sort gives for some order of the members. -/
theorem lists_iff_exists_sorted :
    s.Lists facts ↔ ∃ r : FactSet, r.members = s.members ∧ r.sorted = facts := by
  constructor
  · intro h
    -- the members taken in the order of the list itself, which the sort leaves alone
    refine ⟨⟨facts, h.nodup⟩, ?_, Text.sortByText_eq_self (lists_iff_perm.1 h).2⟩
    ext f
    rw [mem_members, has_iff, h.mem]
  · rintro ⟨r, hmembers, rfl⟩
    exact r.lists_sorted.of_members_eq hmembers

theorem text_eq_bracketed (s : FactSet) : s.text = bracketed s.sorted := by
  rw [text, bracketed, Text.join_eq_intercalate]

theorem Lists.bracketed_eq (h : s.Lists facts) : bracketed facts = s.text := by
  rw [text_eq_bracketed, bracketed, bracketed, h.map_text_eq s.lists_sorted]

end

/-- **How a set of facts is shown depends on its members alone.** The facts of two sets with the
same members are listed by the bytes of their texts, each once; the two lists have the same text at
every place, and the two sets are shown alike. None of this rests on how the members are taken or on
what the sort does with facts that have one text: the lists that come out for some order of the
members are all lists of the members by text, and any two of these show the same. -/
theorem rendering_canonical {s t : FactSet} (h : s.members = t.members) :
    (s.Lists s.sorted ∧ t.Lists t.sorted) ∧
    s.sorted.map Fact.text = t.sorted.map Fact.text ∧
    s.text = t.text ∧
    (∀ facts, s.Lists facts ↔ ∃ r : FactSet, r.members = s.members ∧ r.sorted = facts) ∧
    ∀ facts others, s.Lists facts → t.Lists others →
      facts.map Fact.text = others.map Fact.text ∧
      bracketed facts = s.text ∧ bracketed others = t.text := by
  have hsorted : t.Lists s.sorted := s.lists_sorted.of_members_eq h
  refine ⟨⟨s.lists_sorted, t.lists_sorted⟩, ?_, ?_, fun facts => lists_iff_exists_sorted, ?_⟩
  · exact hsorted.map_text_eq t.lists_sorted
  · rw [text_eq_bracketed, hsorted.bracketed_eq]
  · intro facts others hfacts hothers
    have htexts := (hfacts.of_members_eq h).map_text_eq hothers
    exact ⟨htexts, hfacts.bracketed_eq, hothers.bracketed_eq⟩

namespace Sample

/-- The fact about a variable of the frame. Variables of one name have different keys. -/
def fact (name key : String) (origin : Node) : Fact := ⟨some origin, .inFrame (.named name key)⟩

/-- A set of four facts, two of which are shown as `x <- s1`. -/
def listed : FactSet :=
  .ofList [fact "y" "c" ⟨2, "s2", 0⟩, fact "x" "a" ⟨1, "s1", 0⟩, fact "f" "d" ⟨1, "s1", 0⟩,
    fact "x" "b" ⟨1, "s1", 0⟩]

/-- The same set, joined from two sets and then changed. -/
def joined : FactSet :=
  (((FactSet.ofList [fact "x" "b" ⟨1, "s1", 0⟩, fact "z" "e" ⟨3, "s3", 0⟩]).union
    (.ofList [fact "f" "d" ⟨1, "s1", 0⟩, fact "x" "a" ⟨1, "s1", 0⟩])).erase
      (fact "z" "e" ⟨3, "s3", 0⟩)).insert (fact "y" "c" ⟨2, "s2", 0⟩)

/-- The facts of the set by text, with the two that are shown alike in an order of choice. -/
def byText (first second : String) : List Fact :=
  [fact "f" "d" ⟨1, "s1", 0⟩, fact "x" first ⟨1, "s1", 0⟩, fact "x" second ⟨1, "s1", 0⟩,
    fact "y" "c" ⟨2, "s2", 0⟩]

/-- Two facts of a set are shown alike. The set, made in two ways, may be listed in two orders, and
is shown by one text. -/
theorem ties_rendering_canonical :
    listed.members = joined.members ∧
    listed.Lists (byText "a" "b") ∧ joined.Lists (byText "b" "a") ∧
    byText "a" "b" ≠ byText "b" "a" ∧
    (∃ r : FactSet, r.members = listed.members ∧ r.sorted = byText "a" "b") ∧
    listed.sorted.map Fact.text = joined.sorted.map Fact.text ∧
    listed.text = "[f <- s1 x <- s1 x <- s1 y <- s2]" ∧
    joined.text = "[f <- s1 x <- s1 x <- s1 y <- s2]" := by
  have hmembers : listed.members = joined.members := (equal_iff _ _).1 (by decide +kernel)
  have hlisted : listed.Lists (byText "a" "b") :=
    lists_iff_perm.2 ⟨by decide +kernel, by decide +kernel⟩
  have hjoined : joined.Lists (byText "b" "a") :=
    lists_iff_perm.2 ⟨by decide +kernel, by decide +kernel⟩
  obtain ⟨-, htexts, htext, hsorted, hshown⟩ := rendering_canonical hmembers
  have hbracketed : bracketed (byText "a" "b") = "[f <- s1 x <- s1 x <- s1 y <- s2]" := by
    decide +kernel
  have hlistedText := (hshown _ _ hlisted hjoined).2.1.symm.trans hbracketed
  exact ⟨hmembers, hlisted, hjoined, by decide, (hsorted _).1 hlisted, htexts, hlistedText,
    htext.symm.trans hlistedText⟩

end Sample

end LeakCheck.FactSet
