import LeakCheck.Config.Basic
import LeakCheck.Json.Access
import Mathlib.Data.List.Forall2
import Mathlib.Data.List.Nodup

/-!
# What entries exclude

An entry is read member by member. `Flawed` says which members are mistakes, and `Gives` what the
others give: of the members with one meaning the last one counts, and null gives nothing.
`Entry.Reflects` is the invariant of the reading, that the entry holds what the members so far give.
So an entry is refused iff it has a mistake or an attribute given twice (`Refused`), and else it
names the functions that its members describe (`Matches`).
-/

namespace LeakCheck.Config

/-! ## Keys -/

/-- How a key is written. -/
def EntryKey.text : EntryKey → String
  | .literal a => a.key
  | .expression a => a.expressionKey

/-- A text means a key. Case does not matter. -/
def EntryKey.Named (k : EntryKey) (key : String) : Prop := Text.equalFold k.text key = true

/-- All keys. -/
def EntryKey.all : List EntryKey :=
  Attribute.all.map .literal ++ Attribute.all.map .expression

theorem Attribute.mem_all (a : Attribute) : a ∈ Attribute.all := by
  cases a <;> decide

theorem EntryKey.mem_all (k : EntryKey) : k ∈ EntryKey.all := by
  rw [all, List.mem_append]
  cases k with
  | literal a => exact .inl (List.mem_map_of_mem a.mem_all)
  | expression a => exact .inr (List.mem_map_of_mem a.mem_all)

/-- A text means one key only. -/
theorem EntryKey.Named.unique {k l : EntryKey} {key : String} (hk : k.Named key)
    (hl : l.Named key) : k = l := by
  have hnodup : (EntryKey.all.map fun k => Text.foldText k.text).Nodup := by decide
  refine List.inj_on_of_nodup_map hnodup k.mem_all l.mem_all ?_
  exact (beq_iff_eq.1 hk).trans (beq_iff_eq.1 hl).symm

theorem EntryKey.named_of_ofText? {k : EntryKey} {key : String}
    (h : EntryKey.ofText? key = some k) : k.Named key := by
  unfold ofText? at h
  split at h
  · next a ha =>
    cases h
    have hnamed := List.find?_some ha
    exact hnamed
  · obtain ⟨a, ha, rfl⟩ := Option.map_eq_some_iff.1 h
    have hnamed := List.find?_some ha
    exact hnamed

theorem EntryKey.ofText?_eq_some {k : EntryKey} {key : String} :
    EntryKey.ofText? key = some k ↔ k.Named key := by
  refine ⟨named_of_ofText?, fun hk => ?_⟩
  obtain ⟨l, hl⟩ : ∃ l, EntryKey.ofText? key = some l := by
    unfold ofText?
    split
    · exact ⟨_, rfl⟩
    · next hnone =>
      rw [List.find?_eq_none] at hnone
      cases k with
      | literal a => exact absurd hk (hnone a a.mem_all)
      | expression a =>
        rw [← Option.isSome_iff_exists, Option.isSome_map, List.find?_isSome]
        exact ⟨a, a.mem_all, hk⟩
  rw [hl, (named_of_ofText? hl).unique hk]

/-! ## What members give -/

/-- The last member that means `k` is the text `s`. -/
def Gives (members : List (String × Json)) (k : EntryKey) (s : String) : Prop :=
  ∃ before key after, members = before ++ (key, .string s) :: after ∧ k.Named key ∧
    ∀ m ∈ after, ¬ k.Named m.1

/-- Members that are mistakes. -/
inductive Flawed : String × Json → EntryError → Prop
  /-- The key has no meaning. -/
  | unknown {key : String} {value : Json} (h : ∀ k : EntryKey, ¬ k.Named key) :
      Flawed (key, value) (.unknownField key)
  /-- The value is neither a text nor null. -/
  | mistyped {k : EntryKey} {key : String} {value : Json} (hkey : k.Named key)
      (hnull : value ≠ .null) (hstring : ∀ s, value ≠ .string s) : Flawed (key, value) .mistyped
  /-- The text is not an expression where one is asked for. -/
  | expression {a : Attribute} {key s : String} {fault : Pattern.Fault}
      (hkey : (EntryKey.expression a).Named key) (h : Pattern.Expression.read s = .error fault) :
      Flawed (key, .string s) (.expression fault)

/-- Values that are no entries, and why. -/
inductive Refused : Json → EntryError → Prop
  /-- The value is neither an object nor null. -/
  | mistyped {j : Json} (hnull : j ≠ .null) (hobject : ∀ members, j ≠ .object members) :
      Refused j .mistyped
  /-- A member is a mistake. -/
  | flawed {members : List (String × Json)} {m : String × Json} {err : EntryError}
      (hm : m ∈ members) (h : Flawed m err) : Refused (.object members) err
  /-- An attribute is given by a text and by an expression. -/
  | conflict {members : List (String × Json)} {a : Attribute} {s t : String}
      (hliteral : Gives members (.literal a) s) (hexpression : Gives members (.expression a) t) :
      Refused (.object members) (.conflict a)

/-- An attribute is as members say: equal to the text they give, with a match of the expression they
give, or anything if they give neither. -/
inductive Satisfies (members : List (String × Json)) (a : Attribute) : String → Prop
  | literal {s : String} (h : Gives members (.literal a) s) : Satisfies members a s
  | expression {s text : String} {x : Pattern.Expression} (h : Gives members (.expression a) s)
      (hx : Pattern.Expression.read s = .ok x) (hmatch : x.search text.toList = true) :
      Satisfies members a text
  | anything {text : String} (hliteral : ∀ s, ¬ Gives members (.literal a) s)
      (hexpression : ∀ s, ¬ Gives members (.expression a) s) : Satisfies members a text

/-- A function is as an entry says. -/
def Matches (j : Json) (path receiver name : String) : Prop :=
  Satisfies j.members .path path ∧ Satisfies j.members .receiver receiver ∧
    Satisfies j.members .name name

variable {members rest : List (String × Json)} {key : String} {value : Json} {k : EntryKey}
  {s text : String} {e e' : Entry} {a : Attribute} {err : EntryError} {noted : Option EntryError}

theorem not_gives_nil : ¬ Gives [] k s := by
  rintro ⟨before, key, after, h, -⟩
  simp at h

theorem Gives.mem (h : Gives members k s) : ∃ key, (key, .string s) ∈ members ∧ k.Named key := by
  obtain ⟨before, key, after, rfl, hkey, -⟩ := h
  exact ⟨key, by simp, hkey⟩

/-- A member takes the place of those before it that mean the same. -/
theorem gives_concat :
    Gives (members ++ [(key, value)]) k s ↔
      k.Named key ∧ value = .string s ∨ ¬ k.Named key ∧ Gives members k s := by
  constructor
  · rintro ⟨before, key', after, hmembers, hkey, hafter⟩
    rcases after.eq_nil_or_concat' with rfl | ⟨init, last, rfl⟩
    · obtain ⟨-, heq⟩ := List.append_inj' hmembers rfl
      cases heq
      exact .inl ⟨hkey, rfl⟩
    · rw [← List.cons_append, ← List.append_assoc] at hmembers
      obtain ⟨rfl, heq⟩ := List.append_inj' hmembers rfl
      cases heq
      exact .inr ⟨hafter (key, value) (by simp), before, key', init, rfl, hkey,
        fun m hm => hafter m (by simp [hm])⟩
  · rintro (⟨hkey, rfl⟩ | ⟨hkey, before, key', after, rfl, hkey', hafter⟩)
    · exact ⟨members, key, [], rfl, hkey, nofun⟩
    · refine ⟨before, key', after ++ [(key, value)], by simp, hkey', fun m hm => ?_⟩
      rcases List.mem_append.1 hm with hm | hm
      · exact hafter m hm
      · cases List.mem_singleton.1 hm
        exact hkey

/-! ## Reading members -/

theorem setAttribute_self {α : Type} (f : Attribute → α) (a : Attribute) (x : α) :
    setAttribute f a x a = x :=
  if_pos rfl

theorem setAttribute_of_ne {α : Type} (f : Attribute → α) (x : α) {a b : Attribute} (h : b ≠ a) :
    setAttribute f a x b = f b :=
  if_neg h

/-- An entry holds what members give. -/
structure Entry.Reflects (e : Entry) (members : List (String × Json)) : Prop where
  literal : ∀ a s, e.literal a = some s ↔ Gives members (.literal a) s
  expression : ∀ a x, e.expression a = some x ↔
    ∃ s, Gives members (.expression a) s ∧ Pattern.Expression.read s = .ok x

theorem Entry.reflects_nil : Entry.Reflects {} [] where
  literal _ _ := ⟨nofun, fun h => absurd h not_gives_nil⟩
  expression _ _ := ⟨nofun, fun ⟨_, h, _⟩ => absurd h not_gives_nil⟩

/-- A member with another meaning leaves what is given. -/
theorem gives_concat_of_ne {l : EntryKey} (hl : l.Named key) (hne : k ≠ l) :
    Gives (members ++ [(key, value)]) k s ↔ Gives members k s := by
  have hk : ¬ k.Named key := fun hk => hne (hk.unique hl)
  simp [gives_concat, hk]

theorem gives_concat_of_named (hk : k.Named key) :
    Gives (members ++ [(key, value)]) k s ↔ value = .string s := by
  simp [gives_concat, hk]

theorem Entry.Reflects.set_literal (h : e.Reflects members)
    (hkey : (EntryKey.literal a).Named key) {given : Option String}
    (hgiven : ∀ s, given = some s ↔ value = .string s) :
    Entry.Reflects { e with literal := setAttribute e.literal a given }
      (members ++ [(key, value)]) where
  literal b s := by
    by_cases hb : b = a
    · subst hb
      simp only [gives_concat_of_named hkey, ← hgiven, setAttribute_self]
    · have hne : EntryKey.literal b ≠ .literal a := fun heq => hb (EntryKey.literal.inj heq)
      simp only [gives_concat_of_ne hkey hne, setAttribute_of_ne _ _ hb]
      exact h.literal b s
  expression b x := by
    simp only [gives_concat_of_ne hkey (k := .expression b) nofun]
    exact h.expression b x

theorem Entry.Reflects.set_expression (h : e.Reflects members)
    (hkey : (EntryKey.expression a).Named key) {given : Option Pattern.Expression}
    (hgiven : ∀ x, given = some x ↔ ∃ s, value = .string s ∧ Pattern.Expression.read s = .ok x) :
    Entry.Reflects { e with expression := setAttribute e.expression a given }
      (members ++ [(key, value)]) where
  literal b s := by
    rw [gives_concat_of_ne hkey (k := .literal b) nofun]
    exact h.literal b s
  expression b x := by
    by_cases hb : b = a
    · subst hb
      simp only [gives_concat_of_named hkey, ← hgiven, setAttribute_self]
    · have hne : EntryKey.expression b ≠ .expression a :=
        fun heq => hb (EntryKey.expression.inj heq)
      simp only [gives_concat_of_ne hkey hne, setAttribute_of_ne _ _ hb]
      exact h.expression b x

theorem not_flawed_null (hkey : k.Named key) : ¬ Flawed (key, .null) err := by
  rintro (h | ⟨-, hnull, -⟩)
  · exact h k hkey
  · exact hnull rfl

theorem not_flawed_string (hkey : k.Named key)
    (hread : ∀ a, k = .expression a → ∃ x, Pattern.Expression.read s = .ok x) :
    ¬ Flawed (key, .string s) err := by
  rintro (h | ⟨-, -, hstring⟩ | ⟨hexpression, herror⟩)
  · exact h k hkey
  · exact hstring s rfl
  · obtain ⟨x, hx⟩ := hread _ (hkey.unique hexpression)
    rw [hx] at herror
    cases herror

/-- What a member can do: a mistake is noted or ends the reading, and anything else is taken into
the entry. -/
theorem Entry.take_cases (e : Entry) (key : String) (value : Json) :
    (∃ err, Flawed (key, value) err ∧
      (e.take key value = .note err ∨ e.take key value = .stop err)) ∨
    ∃ e', e.take key value = .next e' ∧ (∀ err, ¬ Flawed (key, value) err) ∧
      ∀ members, e.Reflects members → e'.Reflects (members ++ [(key, value)]) := by
  unfold take
  split
  case h_1 hkey =>
    refine .inl ⟨.unknownField key, .unknown fun k hk => ?_, .inl rfl⟩
    rw [EntryKey.ofText?_eq_some.2 hk] at hkey
    cases hkey
  case h_2 a hkey =>
    have hnamed := EntryKey.ofText?_eq_some.1 hkey
    split
    · exact .inr ⟨_, rfl, fun _ => not_flawed_null hnamed, fun members h =>
        h.set_literal hnamed fun s => by simp⟩
    · next s =>
      exact .inr ⟨_, rfl, fun _ => not_flawed_string hnamed nofun, fun members h =>
        h.set_literal hnamed fun t => by simp⟩
    · next hnull hstring => exact .inl ⟨.mistyped, .mistyped hnamed hnull hstring, .inl rfl⟩
  case h_3 a hkey =>
    have hnamed := EntryKey.ofText?_eq_some.1 hkey
    split
    · exact .inr ⟨_, rfl, fun _ => not_flawed_null hnamed, fun members h =>
        h.set_expression hnamed fun x => by simp⟩
    · next s =>
      split
      · next x hx =>
        exact .inr ⟨_, rfl, fun _ => not_flawed_string hnamed fun _ _ => ⟨x, hx⟩, fun members h =>
          h.set_expression hnamed fun y => by simp [hx]⟩
      · next fault hfault => exact .inl ⟨_, .expression hnamed hfault, .inr rfl⟩
    · next hnull hstring => exact .inl ⟨.mistyped, .mistyped hnamed hnull hstring, .inr rfl⟩

/-- A reading that succeeds has met no mistake, and the entry holds what all members give. -/
theorem Entry.takeAll_ok (h : e.takeAll noted rest = .ok e') (hreflects : e.Reflects members) :
    noted = none ∧ (∀ m ∈ rest, ∀ err, ¬ Flawed m err) ∧ e'.Reflects (members ++ rest) := by
  induction rest generalizing e noted members with
  | nil =>
    unfold takeAll at h
    cases noted with
    | none =>
      cases h
      exact ⟨rfl, nofun, by rwa [List.append_nil]⟩
    | some err => cases h
  | cons m rest ih =>
    obtain ⟨key, value⟩ := m
    unfold takeAll at h
    rcases e.take_cases key value with ⟨err, -, htake | htake⟩ | ⟨next, htake, hsound, hnext⟩
    · rw [htake] at h
      obtain ⟨hnoted, -⟩ := ih h hreflects
      cases noted <;> cases hnoted
    · rw [htake] at h
      cases h
    · rw [htake] at h
      obtain ⟨hnoted, hrest, hreads⟩ := ih h (hnext members hreflects)
      refine ⟨hnoted, List.forall_mem_cons.2 ⟨hsound, hrest⟩, ?_⟩
      rwa [List.append_assoc] at hreads

/-- A reading that fails tells of a mistake that it met. -/
theorem Entry.takeAll_error (h : e.takeAll noted rest = .error err) :
    noted = some err ∨ ∃ m ∈ rest, Flawed m err := by
  induction rest generalizing e noted with
  | nil =>
    unfold takeAll at h
    cases noted with
    | none => cases h
    | some err' =>
      cases h
      exact .inl rfl
  | cons m rest ih =>
    obtain ⟨key, value⟩ := m
    unfold takeAll at h
    rcases e.take_cases key value with ⟨err', hflawed, htake | htake⟩ | ⟨next, htake, -⟩
    · rw [htake] at h
      rcases ih h with hnoted | ⟨m, hm, hm'⟩
      · cases noted with
        | none =>
          cases hnoted
          exact .inr ⟨_, List.mem_cons_self .., hflawed⟩
        | some err'' => exact .inl hnoted
      · exact .inr ⟨m, List.mem_cons_of_mem _ hm, hm'⟩
    · rw [htake] at h
      cases h
      exact .inr ⟨_, List.mem_cons_self .., hflawed⟩
    · rw [htake] at h
      rcases ih h with hnoted | ⟨m, hm, hm'⟩
      · exact .inl hnoted
      · exact .inr ⟨m, List.mem_cons_of_mem _ hm, hm'⟩

/-! ## Exclusions -/

/-- An attribute is given twice. -/
theorem Entry.Reflects.conflict (h : e.Reflects members) (hconflict : e.conflict? = some a) :
    Refused (.object members) (.conflict a) := by
  have hboth := List.find?_some hconflict
  rw [Bool.and_eq_true, Option.isSome_iff_exists, Option.isSome_iff_exists] at hboth
  obtain ⟨⟨s, hs⟩, x, hx⟩ := hboth
  obtain ⟨t, ht, -⟩ := (h.expression a x).1 hx
  exact .conflict ((h.literal a s).1 hs) ht

/-- No attribute is given twice. -/
theorem Entry.not_both (h : e.conflict? = none) {x : Pattern.Expression}
    (hliteral : e.literal a = some s) (hexpression : e.expression a = some x) : False := by
  have hboth := List.find?_eq_none.1 h a a.mem_all
  simp [hliteral, hexpression] at hboth

/-- An expression that is given was read. -/
theorem Entry.Reflects.read (h : e.Reflects members)
    (hsound : ∀ m ∈ members, ∀ err, ¬ Flawed m err) (hgives : Gives members (.expression a) s) :
    ∃ x, e.expression a = some x := by
  obtain ⟨key, hmem, hkey⟩ := hgives.mem
  cases hread : Pattern.Expression.read s with
  | error fault => exact absurd (.expression hkey hread) (hsound _ hmem _)
  | ok x => exact ⟨x, (h.expression a x).2 ⟨s, hgives, hread⟩⟩

/-- An attribute is accepted iff it is as the members say. -/
theorem Entry.Reflects.accepts_matcher (h : e.Reflects members)
    (hsound : ∀ m ∈ members, ∀ err, ¬ Flawed m err) (hconflict : e.conflict? = none) :
    (e.matcher a).accepts text = true ↔ Satisfies members a text := by
  unfold matcher
  cases hliteral : e.literal a with
  | some s =>
    rw [Matcher.accepts, beq_iff_eq]
    constructor
    · rintro rfl
      exact .literal ((h.literal a s).1 hliteral)
    · rintro (hgives | ⟨hgives, -, -⟩ | ⟨hnone, -⟩)
      · exact Option.some.inj (hliteral.symm.trans ((h.literal a text).2 hgives))
      · obtain ⟨x, hx⟩ := h.read hsound hgives
        exact (not_both hconflict hliteral hx).elim
      · exact absurd ((h.literal a s).1 hliteral) (hnone s)
  | none =>
    have hnotext : ∀ s, ¬ Gives members (.literal a) s := by
      intro s hgives
      rw [(h.literal a s).2 hgives] at hliteral
      cases hliteral
    cases hexpression : e.expression a with
    | some x =>
      obtain ⟨s, hgives, hread⟩ := (h.expression a x).1 hexpression
      constructor
      · exact fun hmatch => .expression hgives hread hmatch
      · rintro (hgives' | ⟨hgives', hread', hmatch⟩ | ⟨-, hnone⟩)
        · exact absurd hgives' (hnotext _)
        · have hx := (h.expression a _).2 ⟨_, hgives', hread'⟩
          rw [hexpression] at hx
          cases hx
          exact hmatch
        · exact absurd hgives (hnone s)
    | none =>
      refine iff_of_true rfl (.anything hnotext fun s hgives => ?_)
      obtain ⟨x, hx⟩ := h.read hsound hgives
      rw [hexpression] at hx
      cases hx

theorem Exclusion.refused_of_ofJson {j : Json} (h : Exclusion.ofJson j = .error err) :
    Refused j err := by
  unfold ofJson at h
  split at h
  · cases h
  · split at h
    · next hread =>
      cases h
      obtain hnoted | ⟨m, hm, hflawed⟩ := Entry.takeAll_error hread
      · cases hnoted
      · exact .flawed hm hflawed
    · next hread =>
      split at h
      · next a hconflict =>
        cases h
        exact (Entry.takeAll_ok hread Entry.reflects_nil).2.2.conflict hconflict
      · cases h
  · next hnull hobject =>
    cases h
    exact .mistyped hnull hobject

/-- An exclusion that was read names the functions that its entry describes, and the entry has no
mistake. -/
theorem Exclusion.of_ofJson {j : Json} {x : Exclusion} (h : Exclusion.ofJson j = .ok x) :
    (∀ err, ¬ Refused j err) ∧
      ∀ path receiver name, x.covers path receiver name = true ↔ Matches j path receiver name := by
  unfold ofJson at h
  split at h
  · cases h
    refine ⟨?_, fun path receiver name => iff_of_true rfl ?_⟩
    · rintro err ⟨hnull, -⟩
      exact hnull rfl
    · have hany : ∀ a text, Satisfies [] a text :=
        fun _ _ => .anything (fun _ => not_gives_nil) fun _ => not_gives_nil
      exact ⟨hany _ _, hany _ _, hany _ _⟩
  · split at h
    · cases h
    · next hread =>
      obtain ⟨-, hsound, hreflects⟩ := Entry.takeAll_ok hread Entry.reflects_nil
      split at h
      · cases h
      · next hconflict =>
        cases h
        refine ⟨?_, fun path receiver name => ?_⟩
        · rintro err (⟨-, hobject⟩ | ⟨hm, hflawed⟩ | ⟨hliteral, hexpression⟩)
          · exact hobject _ rfl
          · exact hsound _ hm _ hflawed
          · obtain ⟨x, hx⟩ := hreflects.read hsound hexpression
            exact Entry.not_both hconflict ((hreflects.literal _ _).2 hliteral) hx
        · simp only [covers, Entry.exclusion, Bool.and_eq_true,
            hreflects.accepts_matcher hsound hconflict, Matches, Json.members, and_assoc]
          rfl
  · cases h

/-! ## Lists of entries -/

/-- The entries of a list are read one by one. -/
theorem mapM_ofJson_iff {items : List Json} {exclude : List Exclusion} :
    items.mapM Exclusion.ofJson = .ok exclude ↔
      List.Forall₂ (fun j x => Exclusion.ofJson j = .ok x) items exclude := by
  induction items generalizing exclude with
  | nil =>
    rw [List.mapM_nil, List.forall₂_nil_left_iff]
    exact ⟨fun h => by cases h; rfl, fun h => by rw [h]; rfl⟩
  | cons j items ih =>
    rw [List.mapM_cons, List.forall₂_cons_left_iff]
    cases hj : Exclusion.ofJson j with
    | error err => exact ⟨nofun, nofun⟩
    | ok x =>
      cases hitems : items.mapM Exclusion.ofJson with
      | error err =>
        refine ⟨nofun, ?_⟩
        rintro ⟨y, rest, -, hrest, -⟩
        rw [ih.2 hrest] at hitems
        cases hitems
      | ok rest =>
        constructor
        · intro h
          cases h
          exact ⟨x, rest, rfl, ih.1 hitems, rfl⟩
        · rintro ⟨y, rest', ⟨⟩, hrest, rfl⟩
          cases hitems.symm.trans (ih.2 hrest)
          rfl

theorem exists_ofJson {j : Json} (h : ∀ err, ¬ Refused j err) :
    ∃ x, Exclusion.ofJson j = .ok x := by
  cases hj : Exclusion.ofJson j with
  | error err => exact absurd (Exclusion.refused_of_ofJson hj) (h err)
  | ok x => exact ⟨x, rfl⟩

/-- A list is read iff none of its entries is refused. -/
theorem exists_mapM_ofJson_iff {items : List Json} :
    (∃ exclude, items.mapM Exclusion.ofJson = .ok exclude) ↔
      ∀ j ∈ items, ∀ err, ¬ Refused j err := by
  simp only [mapM_ofJson_iff]
  induction items with
  | nil => exact ⟨fun _ => nofun, fun _ => ⟨[], .nil⟩⟩
  | cons j items ih =>
    rw [List.forall_mem_cons, ← ih]
    constructor
    · rintro ⟨exclude, hread⟩
      cases hread with
      | cons hj hitems => exact ⟨(Exclusion.of_ofJson hj).1, _, hitems⟩
    · rintro ⟨hj, exclude, hitems⟩
      obtain ⟨x, hx⟩ := exists_ofJson hj
      exact ⟨x :: exclude, .cons hx hitems⟩

theorem any_covers_iff {items : List Json} {exclude : List Exclusion} {path receiver name : String}
    (h : List.Forall₂ (fun j x => Exclusion.ofJson j = .ok x) items exclude) :
    exclude.any (·.covers path receiver name) = true ↔
      ∃ j ∈ items, Matches j path receiver name := by
  induction h with
  | nil => simp
  | cons hj _ ih =>
    rw [List.any_cons, Bool.or_eq_true, ih, (Exclusion.of_ofJson hj).2, List.exists_mem_cons_iff]

/-- The exclusions of a configuration are those of the last list that was taken into it. -/
theorem take_exclude (c : Config) {key : String} (hkey : Key.ofText? key = some .exclude)
    (items : List Json) (c' : Config) :
    c.take key (.array items) = .next c' ↔
      ∃ exclude, items.mapM Exclusion.ofJson = .ok exclude ∧ c' = { c with exclude } := by
  simp only [take, hkey]
  cases items.mapM Exclusion.ofJson with
  | error err => simp
  | ok exclude => simp [eq_comm]

/-- **Entries mean what they say or are refused.** A value is refused iff it is no object, has a key
without a meaning, a value of a wrong type or a text that is not an expression, or gives an
attribute twice, and what is told is one of these. Any other value is read, and names the functions
whose attributes are as its members say. A list is taken into a configuration iff none of its
entries is refused, and then excludes the functions that one of them describes. -/
theorem exclusions_read_exactly :
    (∀ j,
      (∀ err, Exclusion.ofJson j = .error err → Refused j err) ∧
      ((∃ err, Refused j err) → ∃ err, Exclusion.ofJson j = .error err) ∧
      ((∀ err, ¬ Refused j err) → ∃ x, Exclusion.ofJson j = .ok x ∧ ∀ path receiver name,
        x.covers path receiver name = true ↔ Matches j path receiver name)) ∧
    ∀ (c : Config) (key : String) (items : List Json), Key.ofText? key = some .exclude →
      ((∃ c', c.take key (.array items) = .next c') ↔ ∀ j ∈ items, ∀ err, ¬ Refused j err) ∧
      ∀ c', c.take key (.array items) = .next c' → ∀ path receiver name,
        c'.isExcluded path receiver name = true ↔ ∃ j ∈ items, Matches j path receiver name := by
  refine ⟨fun j => ⟨fun err => Exclusion.refused_of_ofJson, ?_, fun h => ?_⟩,
    fun c key items hkey => ⟨?_, fun c' hc' path receiver name => ?_⟩⟩
  · rintro ⟨err, hrefused⟩
    cases hj : Exclusion.ofJson j with
    | error err' => exact ⟨err', rfl⟩
    | ok x => exact absurd hrefused ((Exclusion.of_ofJson hj).1 err)
  · obtain ⟨x, hx⟩ := exists_ofJson h
    exact ⟨x, hx, (Exclusion.of_ofJson hx).2⟩
  · rw [← exists_mapM_ofJson_iff]
    simp only [take_exclude c hkey]
    exact ⟨fun ⟨_, exclude, h, _⟩ => ⟨exclude, h⟩, fun ⟨exclude, h⟩ => ⟨_, exclude, h, rfl⟩⟩
  · obtain ⟨exclude, hexclude, rfl⟩ := (take_exclude c hkey items c').1 hc'
    exact any_covers_iff (mapM_ofJson_iff.1 hexclude)

-- null takes back what was given before, under a key that is written in another way
example : ((Exclusion.ofJson (.object [("package", .string "p"), ("METHOD", .string "F"),
    ("Package", .null)])).toOption.map (·.covers "q" "T" "F")) = some true := by decide

end LeakCheck.Config
