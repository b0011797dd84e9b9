import LeakCheck.Proofs.Text.Trim
import LeakCheck.Suppression.Comment

/-!
# The grammar of suppressing comments

A comment is cut into lines, and each line is trimmed, freed of the signs that open a comment and
trimmed again before the word is looked for. `Unclosed`, `Lines` and `Directive` say without any of
this which comments suppress reports. What the steps take off a line is put together again to show
that the line is of the grammar (`Directive.of_lineBody`). For the converse each step is applied to
such a line; the word stays, since it begins and ends with letters (`Directive.lineBody`).
-/

namespace LeakCheck.Suppression

/-! ## Grammar -/

/-- What remains of a comment without the sign that closes it. One sign at the end is removed. -/
inductive Unclosed : List Char → List Char → Prop
  | closed (body : List Char) : Unclosed (body ++ "*/".toList) body
  | unclosed {text : List Char} (h : ¬ "*/".toList <:+ text) : Unclosed text text

/-- The lines of a text, with a newline between each two. -/
inductive Lines : List Char → List (List Char) → Prop
  | last {line : List Char} (h : '\n' ∉ line) : Lines line [line]
  | next {line text : List Char} {rest : List (List Char)} (h : '\n' ∉ line)
      (hrest : Lines text rest) : Lines (line ++ '\n' :: text) (line :: rest)

/-- The signs that may stand before the word. -/
def openings : List (List Char) := ["".toList, "//".toList, "/*".toList, "///*".toList]

/-- A line that suppresses: white space, the signs that open a comment, white space and the word,
with any text after it. -/
inductive Directive : List Char → Prop
  | mk {front signs space : List Char} (hfront : ∀ c ∈ front, Text.isBlank c = true)
      (hsigns : signs ∈ openings) (hspace : ∀ c ∈ space, Text.isBlank c = true)
      (rest : List Char) :
      Directive (front ++ signs ++ space ++ "secretflow:ignore".toList ++ rest)

/-! ## Ends and beginnings -/

theorem unclosed_iff {text body : List Char} :
    Unclosed text body ↔ dropEnd ['*', '/'] text = body := by
  constructor
  · rintro (_ | h)
    · simp [dropEnd]
    · rw [dropEnd, if_neg (by simpa using h)]
  · rintro rfl
    unfold dropEnd
    split
    · next h =>
      obtain ⟨body, rfl⟩ := List.isSuffixOf_iff_suffix.1 h
      simpa using Unclosed.closed body
    · next h => exact .unclosed (by simpa using h)

/-- A text begins with what is dropped from its beginning, if anything is. -/
theorem dropStart_cases (start cs : List Char) :
    cs = start ++ dropStart start cs ∨ cs = dropStart start cs := by
  unfold dropStart
  split
  · next h =>
    obtain ⟨rest, rfl⟩ := List.isPrefixOf_iff_prefix.1 h
    exact .inl (by rw [List.drop_left])
  · exact .inr rfl

theorem mem_openings {signs : List Char} :
    signs ∈ openings ↔
      signs = [] ∨ signs = ['/', '/'] ∨ signs = ['/', '*'] ∨ signs = ['/', '/', '/', '*'] := by
  rw [openings, List.mem_cons, List.mem_cons, List.mem_cons, List.mem_singleton]
  rfl

/-- What is dropped from the beginning of a line are the signs of an opening. -/
theorem exists_openings (cs : List Char) :
    ∃ signs ∈ openings, cs = signs ++ dropStart ['/', '*'] (dropStart ['/', '/'] cs) := by
  simp only [mem_openings]
  have hslashes := dropStart_cases ['/', '/'] cs
  rcases dropStart_cases ['/', '*'] (dropStart ['/', '/'] cs) with hstar | hstar
  · rw [hstar] at hslashes
    rcases hslashes with h | h
    · exact ⟨['/', '/', '/', '*'], by simp, h⟩
    · exact ⟨['/', '*'], by simp, h⟩
  · rw [hstar] at hslashes
    rcases hslashes with h | h
    · exact ⟨['/', '/'], by simp, h⟩
    · exact ⟨[], by simp, h⟩

/-- The signs are dropped as far as they go. -/
theorem dropStart_openings {signs cs : List Char} (hsigns : signs ∈ openings)
    (hcs : cs.head? ≠ some '/') :
    dropStart ['/', '*'] (dropStart ['/', '/'] (signs ++ cs)) = cs := by
  have hnot : ∀ c, ['/', c].isPrefixOf cs = false := by
    intro c
    cases cs with
    | nil => rfl
    | cons d rest =>
      have hd : '/' ≠ d := fun h => hcs (h ▸ rfl)
      simp [List.isPrefixOf, hd]
  rcases mem_openings.1 hsigns with rfl | rfl | rfl | rfl <;>
    simp [dropStart, List.isPrefixOf, hnot]

/-! ## Lines -/

theorem lines_newline (cs : List Char) : lines ('\n' :: cs) = [] :: lines cs := rfl

theorem lines_cons {c : Char} {cs line : List Char} {rest : List (List Char)} (hc : c ≠ '\n')
    (h : lines cs = line :: rest) : lines (c :: cs) = (c :: line) :: rest := by
  rw [lines, List.foldr_cons, ← lines, h, if_neg hc]

/-- A text without a newline is the beginning of the first line. -/
theorem lines_append {start cs line : List Char} {rest : List (List Char)} (hstart : '\n' ∉ start)
    (h : lines cs = line :: rest) : lines (start ++ cs) = (start ++ line) :: rest := by
  induction start with
  | nil => exact h
  | cons c start ih =>
    rw [List.mem_cons, not_or] at hstart
    exact lines_cons (Ne.symm hstart.1) (ih hstart.2)

theorem Lines.lines_eq {text : List Char} {ls : List (List Char)} (h : Lines text ls) :
    lines text = ls := by
  induction h with
  | @last line h =>
    have hline := lines_append h (show lines [] = [[]] from rfl)
    rwa [List.append_nil] at hline
  | @next line text rest h _ ih =>
    rw [lines_append h (lines_newline text), List.append_nil, ih]

theorem lines_lines (text : List Char) : Lines text (lines text) := by
  by_cases h : '\n' ∈ text
  · obtain ⟨line, text, rfl, hline⟩ := List.eq_append_cons_of_mem h
    have hlines := Lines.next hline (lines_lines text)
    rwa [hlines.lines_eq]
  · rw [(Lines.last h).lines_eq]
    exact .last h
termination_by text.length

/-! ## The word -/

/-- The word stays when the line is trimmed. -/
theorem trimBoth_word {front : List Char} (hfront : ∀ c ∈ front, Text.isBlank c = true)
    (rest : List Char) :
    Text.trimBoth Text.isBlank (front ++ ignoreWord ++ rest) =
      ignoreWord ++ Text.trimEnd Text.isBlank rest :=
  Text.trimBoth_append hfront (c := 's') rfl rfl (d := 'e') rfl rfl rest

/-- With signs before it all stays from there on; without them the white space before the word goes
as well. -/
theorem exists_trimBoth_signs {front signs space : List Char}
    (hfront : ∀ c ∈ front, Text.isBlank c = true) (hsigns : signs ∈ openings)
    (hspace : ∀ c ∈ space, Text.isBlank c = true) (rest : List Char) :
    ∃ between, (∀ c ∈ between, Text.isBlank c = true) ∧
      Text.trimBoth Text.isBlank (front ++ signs ++ space ++ ignoreWord ++ rest) =
        signs ++ (between ++ ignoreWord ++ Text.trimEnd Text.isBlank rest) := by
  have hcases : signs = [] ∨ signs.head? = some '/' := by
    rcases mem_openings.1 hsigns with rfl | rfl | rfl | rfl
    · exact .inl rfl
    all_goals exact .inr rfl
  rcases hcases with rfl | hslash
  · refine ⟨[], nofun, ?_⟩
    have hblank : ∀ c ∈ front ++ [] ++ space, Text.isBlank c = true := by
      intro c hc
      rw [List.append_nil, List.mem_append] at hc
      exact hc.elim (hfront c) (hspace c)
    exact trimBoth_word hblank rest
  · refine ⟨space, hspace, ?_⟩
    have hhead : (signs ++ space ++ ignoreWord).head? = some '/' := by
      rw [List.head?_append, List.head?_append, hslash, Option.some_or, Option.some_or]
    have hlast : (signs ++ space ++ ignoreWord).getLast? = some 'e' := by
      rw [List.getLast?_append]
      rfl
    have htrim := Text.trimBoth_append hfront hhead rfl hlast rfl rest
    simp only [List.append_assoc] at htrim ⊢
    exact htrim

theorem head?_ne_slash {space : List Char} (hspace : ∀ c ∈ space, Text.isBlank c = true)
    (rest : List Char) : (space ++ ignoreWord ++ rest).head? ≠ some '/' := by
  cases space with
  | nil => exact nofun
  | cons c space =>
    intro h
    have hblank := hspace c (List.mem_cons_self ..)
    rw [Option.some.inj h] at hblank
    cases hblank

theorem lineBody_eq (line : List Char) :
    lineBody line = Text.trimBoth Text.isBlank
      (dropStart ['/', '*'] (dropStart ['/', '/'] (Text.trimBoth Text.isBlank line))) := rfl

theorem Directive.of_lineBody {line : List Char} (h : ignoreWord <+: lineBody line) :
    Directive line := by
  obtain ⟨rest, hrest⟩ := h
  obtain ⟨front, back, hfront, hline⟩ := Text.exists_eq_trimBoth Text.isBlank line
  obtain ⟨signs, hsigns, hopen⟩ := exists_openings (Text.trimBoth Text.isBlank line)
  obtain ⟨space, after, hspace, hbody⟩ := Text.exists_eq_trimBoth Text.isBlank
    (dropStart ['/', '*'] (dropStart ['/', '/'] (Text.trimBoth Text.isBlank line)))
  rw [← lineBody_eq, ← hrest] at hbody
  rw [hopen, hbody] at hline
  have hdirective := Directive.mk hfront hsigns hspace (rest ++ after ++ back)
  rw [hline]
  simp only [List.append_assoc] at hdirective ⊢
  exact hdirective

theorem Directive.lineBody {line : List Char} (h : Directive line) :
    ignoreWord <+: lineBody line := by
  obtain ⟨hfront, hsigns, hspace, rest⟩ := h
  obtain ⟨between, hbetween, htrim⟩ := exists_trimBoth_signs hfront hsigns hspace rest
  rw [lineBody_eq, show "secretflow:ignore".toList = ignoreWord from rfl, htrim,
    dropStart_openings hsigns (head?_ne_slash hbetween _), trimBoth_word hbetween]
  exact List.prefix_append ..

/-- A comment suppresses iff one of its lines does. -/
theorem isSuppressingComment_iff (comment : String) :
    isSuppressingComment comment = true ↔
      ∃ line ∈ lines (dropEnd ['*', '/'] comment.toList), Directive line := by
  simp only [isSuppressingComment, List.any_eq_true, List.isPrefixOf_iff_prefix]
  exact exists_congr fun line => and_congr_right fun _ => ⟨.of_lineBody, Directive.lineBody⟩

/-- **A group of comments suppresses reports iff it has a comment with a line of the grammar.** Of
the comment one sign that closes it is removed at the end. -/
theorem isSuppressing_iff_directive (group : List String) :
    isSuppressing group = true ↔
      ∃ comment ∈ group, ∃ body ls line, Unclosed comment.toList body ∧ Lines body ls ∧
        line ∈ ls ∧ Directive line := by
  rw [isSuppressing, List.any_eq_true]
  refine exists_congr fun comment => and_congr_right fun _ => ?_
  rw [isSuppressingComment_iff]
  constructor
  · rintro ⟨line, hline, hdirective⟩
    exact ⟨_, _, line, unclosed_iff.2 rfl, lines_lines _, hline, hdirective⟩
  · rintro ⟨body, ls, line, hbody, hls, hline, hdirective⟩
    rw [unclosed_iff.1 hbody, hls.lines_eq]
    exact ⟨line, hline, hdirective⟩

-- a line within a comment suppresses; white space between the signs is not accepted
example : isSuppressing ["/* a\n\t// secretflow:ignored */"] = true := by decide
example : isSuppressing ["// /* secretflow:ignore"] = false := by decide

end LeakCheck.Suppression
