import LeakCheck.Storage.Workspace
import Mathlib.Data.List.Basic

/-!
# Paths and places

A path is followed in two ways: `Workspace.walk` goes from place to place and needs the directories
on the way, while `joinPath` follows the parts of a directory's path without looking at what is
there (`follow`). The names that remain are `..` some times and then names that were not taken back
(`Resolved`), and a part does the same to them in both ways (`Resolved.next_eq`). So a name that is
joined to the path of a directory is located in the place of that directory
(`eq_append_of_locate_joinPath`), provided that it names a file and is no path itself
(`IsFileName`).
-/

namespace LeakCheck.Storage

/-! ## Parts of a path -/

/-- A text that can be a part of a path, which leads from a place to another one. -/
structure IsPart (part : String) : Prop where
  /-- There is no slash in it. -/
  no_slash : '/' ∉ part.toList
  /-- It is not empty. -/
  ne_empty : part ≠ ""
  /-- It does not stand for the place itself. -/
  ne_dot : part ≠ "."

/-- A text that can name a file in a directory. -/
structure IsFileName (name : String) : Prop extends IsPart name where
  /-- It does not stand for the directory above. -/
  ne_dots : name ≠ ".."

theorem IsPart.ne_root {part : String} (h : IsPart part) : part ≠ "/" := by
  rintro rfl
  exact h.no_slash (by simp)

/-- What stands between separators holds none. -/
theorem notMem_of_mem_splitOn {c : Char} {cs : List Char} :
    ∀ part ∈ cs.splitOn c, c ∉ part := by
  induction cs with
  | nil => simp
  | cons d rest ih =>
    intro part hpart
    rw [List.splitOn_cons_eq_if_modifyHead] at hpart
    split at hpart
    · rcases List.mem_cons.1 hpart with rfl | hrest
      · simp
      · exact ih part hrest
    · next hd =>
      -- the first part gets the character at its front
      cases hsplit : rest.splitOn c with
      | nil => exact absurd hsplit (List.splitOn_ne_nil c rest)
      | cons first others =>
        rw [hsplit, List.modifyHead_cons] at hpart
        rw [hsplit] at ih
        rcases List.mem_cons.1 hpart with rfl | hothers
        · have hfirst := ih first List.mem_cons_self
          rw [List.mem_cons, not_or]
          exact ⟨fun heq => hd (by simp [heq]), hfirst⟩
        · exact ih part (List.mem_cons_of_mem _ hothers)

theorem isPart_of_mem_splitPath {path part : String} (h : part ∈ splitPath path) :
    IsPart part := by
  obtain ⟨hpart, hkept⟩ := List.mem_filter.1 h
  obtain ⟨cs, hcs, rfl⟩ := List.mem_map.1 hpart
  have hkept : String.ofList cs ≠ "" ∧ String.ofList cs ≠ "." := by simpa using hkept
  refine ⟨?_, hkept.1, hkept.2⟩
  rw [String.toList_ofList]
  exact notMem_of_mem_splitOn cs hcs

theorem toList_join (names : List String) :
    (Text.join "/" names).toList = ['/'].intercalate (names.map String.toList) := by
  rw [Text.join_eq_intercalate, String.toList_intercalate]
  rfl

/-- The parts of a path are those that were joined to it, also if it begins at the root. -/
theorem splitPath_join {names : List String} (hne : names ≠ []) (h : ∀ name ∈ names, IsPart name)
    (rooted : Bool) : splitPath ((if rooted then "/" else "") ++ Text.join "/" names) = names := by
  have hsplit : (Text.join "/" names).toList.splitOn '/' = names.map String.toList := by
    rw [toList_join]
    refine List.splitOn_intercalate '/' ?_ (by simpa using hne)
    intro cs hcs
    obtain ⟨name, hname, rfl⟩ := List.mem_map.1 hcs
    exact (h name hname).no_slash
  have hback : (names.map String.toList).map String.ofList = names := by simp
  have hkept : ∀ name ∈ names, ¬ name = "" ∧ ¬ name = "." :=
    fun name hname => ⟨(h name hname).ne_empty, (h name hname).ne_dot⟩
  rw [splitPath]
  cases rooted with
  | false => simpa [hsplit, hback] using hkept
  | true => simpa [List.splitOn_cons_eq_if_modifyHead, hsplit, hback] using hkept

/-- A joined path begins at the root iff a slash was put before it. -/
theorem startsWith_join {names : List String} (hne : names ≠ []) (h : ∀ name ∈ names, IsPart name)
    (rooted : Bool) :
    ((if rooted then "/" else "") ++ Text.join "/" names).startsWith "/" = rooted := by
  cases rooted with
  | true => simp [String.startsWith_string_iff]
  | false =>
    obtain ⟨name, rest, rfl⟩ := List.exists_cons_of_ne_nil hne
    have hname := h name List.mem_cons_self
    obtain ⟨c, cs, hcs⟩ := List.exists_cons_of_ne_nil (mt String.toList_eq_nil_iff.1 hname.ne_empty)
    have hc : c ≠ '/' := by
      rintro rfl
      exact hname.no_slash (by simp [hcs])
    rw [Bool.eq_false_iff, Ne, String.startsWith_string_iff]
    cases rest with
    | nil => simpa [toList_join, hcs] using hc.symm
    | cons other rest => simpa [toList_join, hcs] using hc.symm

/-! ## The names that remain -/

/-- The place at which a path begins. -/
def beginning (rooted : Bool) : Place := if rooted then ["/"] else []

/-- Names that remain when parts of a path are followed: first `..`, but not below a root, then
names that were not taken back. -/
inductive Resolved (rooted : Bool) : List String → Prop
  /-- It goes up from the beginning. -/
  | up (k : Nat) (hroot : rooted = true → k = 0) : Resolved rooted (List.replicate k "..")
  /-- It goes on to a name. -/
  | name {names : List String} (part : String) (hnames : Resolved rooted names)
      (hdots : part ≠ "..") (hroot : part ≠ "/") : Resolved rooted (names ++ [part])

theorem Resolved.nil {rooted : Bool} : Resolved rooted [] := .up 0 fun _ => rfl

/-- A name leads further down. -/
theorem Place.next_of_ne {p : Place} {part : String} (h : part ≠ "..") :
    p.next part = p ++ [part] := if_neg h

theorem follow_of_ne {rooted : Bool} {names : List String} {part : String} (h : part ≠ "..") :
    follow rooted names part = names ++ [part] := by
  simp [follow, h]

/-- Where no name can be taken back it goes up once more. -/
theorem up_next (k : Nat) :
    Place.next (List.replicate k "..") ".." = List.replicate (k + 1) ".." := by
  have hroot : List.replicate k ".." ≠ ["/"] := by
    intro heq
    have hmem : "/" ∈ List.replicate k ".." := heq ▸ List.mem_singleton_self "/"
    exact absurd (List.eq_of_mem_replicate hmem) (by decide)
  rw [Place.next, if_pos rfl, if_neg hroot, if_pos (by simp), List.replicate_succ']

theorem up_follow (k : Nat) :
    follow false (List.replicate k "..") ".." = List.replicate (k + 1) ".." := by
  rw [follow, if_neg ?_, if_neg (by simp), List.replicate_succ']
  rintro ⟨-, hne, hlast⟩
  cases k with
  | zero => exact hne rfl
  | succ k => exact hlast (by simp [List.getLast?_replicate])

/-- A name is taken back by `..`. -/
theorem down_next {rooted : Bool} {names : List String} {part : String} (hdots : part ≠ "..")
    (hroot : part ≠ "/") :
    Place.next (beginning rooted ++ (names ++ [part])) ".." = beginning rooted ++ names := by
  rw [← List.append_assoc]
  have hbeginning : beginning rooted ++ names ++ [part] ≠ ["/"] := by
    intro heq
    have hlast := congrArg List.getLast? heq
    rw [List.getLast?_concat] at hlast
    exact hroot (Option.some.inj hlast)
  have hnames : (beginning rooted ++ names ++ [part]).all (· == "..") = false := by
    rw [List.all_append]
    simp [hdots]
  rw [Place.next, if_pos rfl, if_neg hbeginning, hnames, if_neg Bool.false_ne_true,
    List.dropLast_concat]

theorem down_follow {rooted : Bool} {names : List String} {part : String} (hdots : part ≠ "..") :
    follow rooted (names ++ [part]) ".." = names := by
  rw [follow, if_pos, List.dropLast_concat]
  simpa using hdots

/-- **A part does the same in both ways**, and what remains is again resolved. -/
theorem Resolved.next_eq {rooted : Bool} {names : List String} (h : Resolved rooted names)
    {part : String} (hpart : part ≠ "/") :
    Place.next (beginning rooted ++ names) part = beginning rooted ++ follow rooted names part ∧
      Resolved rooted (follow rooted names part) := by
  by_cases hdots : part = ".."
  · subst hdots
    cases h with
    | up k hroot =>
      cases rooted with
      | true =>
        rw [hroot rfl]
        exact ⟨rfl, .up 0 fun _ => rfl⟩
      | false =>
        rw [up_follow]
        exact ⟨up_next k, .up (k + 1) nofun⟩
    | name part hnames hdots hroot =>
      rw [down_follow hdots]
      exact ⟨down_next hdots hroot, hnames⟩
  · rw [Place.next_of_ne hdots, follow_of_ne hdots, List.append_assoc]
    exact ⟨rfl, .name part h hdots hpart⟩

/-- Parts lead to the place of the names that remain of them. -/
theorem Resolved.foldl_next {rooted : Bool} {names : List String} (h : Resolved rooted names)
    {parts : List String} (hparts : ∀ part ∈ parts, IsPart part) :
    parts.foldl Place.next (beginning rooted ++ names) =
        beginning rooted ++ parts.foldl (follow rooted) names ∧
      Resolved rooted (parts.foldl (follow rooted) names) := by
  induction parts generalizing names with
  | nil => exact ⟨rfl, h⟩
  | cons part rest ih =>
    obtain ⟨hnext, hresolved⟩ := h.next_eq (hparts part List.mem_cons_self).ne_root
    rw [List.foldl_cons, List.foldl_cons, hnext]
    exact ih hresolved fun other hother => hparts other (List.mem_cons_of_mem _ hother)

/-- Names that remain are followed as they are. -/
theorem Resolved.foldl_next_self {rooted : Bool} {names : List String}
    (h : Resolved rooted names) :
    names.foldl Place.next (beginning rooted) = beginning rooted ++ names := by
  induction h with
  | up k hroot =>
    cases rooted with
    | true =>
      rw [hroot rfl]
      rfl
    | false =>
      clear hroot
      induction k with
      | zero => rfl
      | succ k ih =>
        rw [List.replicate_succ', List.foldl_concat, ih]
        exact (up_next k).trans List.replicate_succ'
  | name part _ hdots _ ih =>
    rw [List.foldl_concat, ih, Place.next_of_ne hdots, List.append_assoc]

theorem mem_foldl_follow {rooted : Bool} {parts names : List String} {name : String}
    (h : name ∈ parts.foldl (follow rooted) names) : name ∈ names ∨ name ∈ parts := by
  induction parts generalizing names with
  | nil => exact .inl h
  | cons part rest ih =>
    rcases ih h with hfollow | hrest
    · rw [follow] at hfollow
      split at hfollow
      · exact .inl (List.dropLast_subset _ hfollow)
      · split at hfollow
        · exact .inl hfollow
        · rcases List.mem_append.1 hfollow with hname | hname
          · exact .inl hname
          · exact .inr (List.mem_cons.2 (.inl (List.mem_singleton.1 hname)))
    · exact .inr (List.mem_cons_of_mem _ hrest)

/-! ## Joined paths -/

/-- The names that the path of a directory leaves. -/
def resolve (directory : String) : List String :=
  (splitPath directory).foldl (follow (directory.startsWith "/")) []

/-- The path of a directory leads to the place of the names that it leaves. -/
theorem foldl_next_splitPath (directory : String) :
    (splitPath directory).foldl Place.next (beginning (directory.startsWith "/")) =
        beginning (directory.startsWith "/") ++ resolve directory ∧
      Resolved (directory.startsWith "/") (resolve directory) := by
  have hparts : ∀ part ∈ splitPath directory, IsPart part := fun _ => isPart_of_mem_splitPath
  have hfollowed := (@Resolved.nil (directory.startsWith "/")).foldl_next hparts
  rw [List.append_nil] at hfollowed
  exact hfollowed

theorem joinPath_eq (directory name : String) :
    joinPath directory name = (if directory.startsWith "/" then "/" else "") ++
      Text.join "/" (resolve directory ++ [name]) := rfl

/-- A walk that arrives has followed all parts. -/
theorem Workspace.eq_of_walk {w : Workspace} {p q : Place} {parts : List String}
    (h : w.walk p parts = .ok q) : q = parts.foldl Place.next p := by
  induction parts generalizing p with
  | nil => exact (Except.ok.inj h).symm
  | cons part rest ih =>
    rw [walk] at h
    split at h
    · split at h
      · cases h
      · exact ih h
    · split at h
      · cases h
      · cases h

/-- A path is located at the end of its parts, from where it begins. -/
theorem Workspace.eq_of_locate {w : Workspace} {path : String} {p : Place}
    (h : w.locate path = .ok p) :
    p = (splitPath path).foldl Place.next (beginning (path.startsWith "/")) := by
  rw [locate] at h
  split at h
  · cases h
  · split at h
    · cases h
    · exact eq_of_walk h

/-- **A name joined to the path of a directory is located in the place of the directory.** -/
theorem Workspace.eq_append_of_locate_joinPath {w w' : Workspace} {directory name : String}
    {d p : Place} (hname : IsFileName name) (hd : w.locate directory = .ok d)
    (hp : w'.locate (joinPath directory name) = .ok p) : p = d ++ [name] := by
  have hparts : ∀ part ∈ resolve directory ++ [name], IsPart part := by
    intro part hpart
    rcases List.mem_append.1 hpart with hpart | hpart
    · rcases mem_foldl_follow hpart with hnil | hpart
      · cases hnil
      · exact isPart_of_mem_splitPath hpart
    · rw [List.mem_singleton.1 hpart]
      exact hname.toIsPart
  have hne : resolve directory ++ [name] ≠ [] := by simp
  have hp := eq_of_locate hp
  rw [joinPath_eq, splitPath_join hne hparts, startsWith_join hne hparts, List.foldl_concat] at hp
  obtain ⟨hplace, hresolved⟩ := foldl_next_splitPath directory
  rw [hp, hresolved.foldl_next_self, Place.next_of_ne hname.ne_dots, eq_of_locate hd, hplace]

end LeakCheck.Storage
