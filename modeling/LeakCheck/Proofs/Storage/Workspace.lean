import LeakCheck.Storage.Workspace
import Mathlib.Data.List.Basic

/-!
# What writing and making directories change

A file that is put at a place is what is found there, and every other place holds what it held
(`content?_put`). Directories are only added, so what can be located stays where it is
(`locate_mono`). A directory that is made can be located afterwards and is one, and no file changes
(`of_makeDirectories`).
-/

namespace LeakCheck.Storage.Workspace

variable {w w' : Workspace} {path : String} {p q : Place}

/-! ## Files -/

theorem lookup_cons_eq (p q : Place) (content : List Piece) (files : List (Place × List Piece)) :
    ((p, content) :: files).lookup q = if q = p then some content else files.lookup q := by
  rw [List.lookup_cons]
  by_cases hq : q = p
  · rw [beq_iff_eq.2 hq, if_pos hq]
  · rw [beq_false_of_ne hq, if_neg hq]

theorem lookup_replace (p q : Place) (content : List Piece) (files : List (Place × List Piece)) :
    (files.map fun f => if f.1 = p then (p, content) else f).lookup q =
      if q = p then (files.lookup p).map fun _ => content else files.lookup q := by
  induction files with
  | nil => simp
  | cons f rest ih =>
    obtain ⟨r, old⟩ := f
    rw [List.map_cons, lookup_cons_eq, lookup_cons_eq]
    by_cases hr : r = p
    · subst hr
      rw [if_pos rfl, if_pos rfl, lookup_cons_eq, ih]
      by_cases hq : q = r
      · simp [hq]
      · simp [hq]
    · rw [if_neg hr, if_neg (Ne.symm hr), lookup_cons_eq, ih]
      by_cases hq : q = p
      · rw [if_pos hq, if_pos hq, if_neg (by rw [hq]; exact Ne.symm hr)]
      · rw [if_neg hq, if_neg hq]

/-- **A place holds what was put there, and the others what they held.** -/
theorem content?_put (w : Workspace) (p q : Place) (content : List Piece) :
    (w.put p content).content? q = if q = p then some content else w.content? q := by
  rw [put, content?]
  split
  · next hsome =>
    obtain ⟨old, hold⟩ := Option.isSome_iff_exists.1 hsome
    have hold : w.files.lookup p = some old := hold
    rw [lookup_replace, hold]
    rfl
  · next hnone =>
    have hnone : w.files.lookup p = none := Option.not_isSome_iff_eq_none.1 hnone
    rw [List.lookup_append, lookup_cons_eq]
    by_cases hq : q = p
    · simp [hq, hnone]
    · simp [hq, content?]

theorem isDirectory_put (w : Workspace) (p q : Place) (content : List Piece) :
    (w.put p content).isDirectory q = w.isDirectory q := rfl

/-! ## Directories -/

theorem content?_addDirectory (w : Workspace) (p q : Place) :
    (w.addDirectory p).content? q = w.content? q := by
  rw [addDirectory]
  split
  · rfl
  · rfl

theorem isDirectory_addDirectory (w : Workspace) (p q : Place) :
    (w.addDirectory p).isDirectory q = true ↔ w.isDirectory q = true ∨ q = p := by
  rw [addDirectory]
  split
  · next hp =>
    constructor
    · exact .inl
    · rintro (hq | rfl)
      · exact hq
      · exact hp
  · simp [isDirectory, or_assoc]

theorem walk_mono (hdirs : ∀ q, w.isDirectory q = true → w'.isDirectory q = true)
    {parts : List String} (h : w.walk p parts = .ok q) : w'.walk p parts = .ok q := by
  induction parts generalizing p with
  | nil => exact h
  | cons part rest ih =>
    rw [walk] at h ⊢
    split at h
    · next hp =>
      rw [if_pos (hdirs p hp)]
      split at h
      · cases h
      · next hlength =>
        rw [if_neg hlength]
        exact ih h
    · split at h
      · cases h
      · cases h

/-- With more directories a path is located where it was. -/
theorem locate_mono (hdirs : ∀ q, w.isDirectory q = true → w'.isDirectory q = true)
    (h : w.locate path = .ok p) : w'.locate path = .ok p := by
  rw [locate] at h ⊢
  split at h
  · cases h
  · next hne =>
    rw [if_neg hne]
    split at h
    · cases h
    · next hnul =>
      rw [if_neg hnul]
      exact walk_mono hdirs h

theorem locate_put (h : w.locate path = .ok p) (content : List Piece) :
    (w.put q content).locate path = .ok p :=
  locate_mono (fun r hr => (isDirectory_put w q r content).trans hr) h

/-! ## Making directories -/

theorem of_makeDirectory (h : w.makeDirectory path = .ok w') :
    ∃ p, w.locate path = .ok p ∧ w' = w.addDirectory p := by
  rw [makeDirectory] at h
  split at h
  · cases h
  · next p hp =>
    split at h
    · exact ⟨p, hp, (Except.ok.inj h).symm⟩
    · cases h

theorem content?_of_foldlM {paths : List String} (h : paths.foldlM makeDirectory w = .ok w')
    (q : Place) : w'.content? q = w.content? q := by
  induction paths generalizing w with
  | nil => rw [Except.ok.inj h]
  | cons path rest ih =>
    rw [List.foldlM_cons] at h
    cases hmake : w.makeDirectory path with
    | error e =>
      rw [hmake] at h
      cases h
    | ok next =>
      rw [hmake] at h
      obtain ⟨p, -, rfl⟩ := of_makeDirectory hmake
      exact (ih h).trans (content?_addDirectory w p q)

theorem exists_ancestors (hne : path ≠ "") : ∃ front, ancestors path = front ++ [path] := by
  have hlength : path.length ≠ 0 := by simpa using hne
  obtain ⟨n, hn⟩ := Nat.exists_eq_succ_of_ne_zero hlength
  rw [ancestors, hn, ancestors.go, if_neg hne]
  exact ⟨_, rfl⟩

/-- **A directory that was made can be located and is one**, and the files are what they were. -/
theorem of_makeDirectories (h : w.makeDirectories path = .ok w') :
    (∀ q, w'.content? q = w.content? q) ∧
      ∃ d, w'.locate path = .ok d ∧ w'.isDirectory d = true := by
  rw [makeDirectories] at h
  split at h
  · cases h
  · next hne =>
    refine ⟨content?_of_foldlM h, ?_⟩
    obtain ⟨front, hfront⟩ := exists_ancestors hne
    rw [hfront, List.foldlM_append] at h
    cases hbefore : front.foldlM makeDirectory w with
    | error e =>
      rw [hbefore] at h
      cases h
    | ok before =>
      -- the last directory that is made is the one at the path itself
      rw [hbefore] at h
      obtain ⟨p, hp, rfl⟩ : ∃ p, before.locate path = .ok p ∧ w' = before.addDirectory p := by
        refine of_makeDirectory ?_
        rw [← h]
        exact (bind_pure (before.makeDirectory path)).symm
      refine ⟨p, locate_mono (fun q hq => ?_) hp, ?_⟩
      · exact (isDirectory_addDirectory before p q).2 (.inl hq)
      · exact (isDirectory_addDirectory before p p).2 (.inr rfl)

/-! ## Writing a file -/

/-- A file is written where its path is located. -/
theorem of_write {content : String} (h : w.write path content = .ok w') :
    ∃ p, w.locate path = .ok p ∧ w' = w.put p [.bytes (Text.bytes content)] := by
  rw [write] at h
  cases hwritable : w.writable path with
  | error e =>
    rw [hwritable] at h
    cases h
  | ok p =>
    rw [hwritable] at h
    refine ⟨p, ?_, (Except.ok.inj h).symm⟩
    rw [writable] at hwritable
    split at hwritable
    · cases hwritable
    · next q hq =>
      split at hwritable
      · cases hwritable
      · split at hwritable
        · cases hwritable
        · split at hwritable
          · rw [hq, Except.ok.inj hwritable]
          · cases hwritable

end LeakCheck.Storage.Workspace
