import LeakCheck.Dump.Write
import LeakCheck.Proofs.Dump.FileName
import LeakCheck.Proofs.Storage.Place
import LeakCheck.Proofs.Storage.Workspace

/-!
# Dumps lie in their directory

The dump of a function is written to two files whose names come from the name of the function, which
is up to the program that is analysed. A file name is safe whatever that is, so it names a file and
is no path (`isFileName_append`), and a file that is joined to the directory's path lies in the
place of the directory (`write_joinPath`). Hence a dump changes nothing but its two files in its
directory, also if it fails between them (`dump_lies_inside`).
-/

namespace LeakCheck.Dump

open Storage (IsFileName Piece Place Workspace joinPath)

/-! ## The names of the files -/

/-- A file name with an ending names a file. -/
theorem isFileName_append (bytes : List UInt8) {ending : String} (h : '/' ∉ ending.toList) :
    IsFileName (fileNameOfBytes bytes ++ ending) := by
  obtain ⟨base, digits, hnamed⟩ := named_fileNameOfBytes bytes
  have hhead : ∀ other : String, other.toList.head? = none ∨ other.toList.head? = some '.' →
      fileNameOfBytes bytes ++ ending ≠ other := by
    rintro other hother rfl
    have hne : (fileNameOfBytes bytes).toList ≠ [] := by simp [hnamed.toList_eq]
    rw [String.toList_append, List.head?_append_of_ne_nil _ hne] at hother
    rcases hother with hnone | hdot
    · exact hne (List.head?_eq_none_iff.1 hnone)
    · exact hnamed.head?_ne_dot hdot
  refine ⟨⟨?_, hhead "" (.inl rfl), hhead "." (.inr rfl)⟩, hhead ".." (.inr rfl)⟩
  rw [String.toList_append, List.mem_append, not_or]
  exact ⟨fun hslash => (hnamed.portable hslash).ne_slash rfl, h⟩

theorem isFileName_of_mem_files {f : Ssa.Function} {o : Ssa.Outcome} {file : String × String}
    (h : file ∈ files f o) : IsFileName file.1 := by
  rcases List.mem_cons.1 h with rfl | h
  · exact isFileName_append _ (by decide)
  · rw [List.mem_singleton.1 h]
    exact isFileName_append _ (by decide)

theorem nodup_files (f : Ssa.Function) (o : Ssa.Outcome) : ((files f o).map Prod.fst).Nodup := by
  simp [files]

/-! ## Writing into a directory -/

section
variable {w w' : Workspace} {directory : String} {d : Place}

/-- A file that is joined to the path of a directory is written in the place of the directory. -/
theorem write_joinPath {name content : String} (hname : IsFileName name)
    (hd : w.locate directory = .ok d) (h : w.write (joinPath directory name) content = .ok w') :
    w' = w.put (d ++ [name]) [.bytes (Text.bytes content)] := by
  obtain ⟨p, hp, rfl⟩ := Workspace.of_write h
  rw [Workspace.eq_append_of_locate_joinPath hname hd hp]

/-- What holds before the files are written and is kept when one of them is put into the place of
the directory holds afterwards. -/
theorem writeFiles_keeps {P : Workspace → Prop} {files : List (String × String)}
    (hnames : ∀ file ∈ files, IsFileName file.1) (hd : w.locate directory = .ok d) (hw : P w)
    (hput : ∀ w, ∀ file ∈ files, P w →
      P (w.put (d ++ [file.1]) [.bytes (Text.bytes file.2)])) :
    P (writeFiles directory w files).2 := by
  induction files generalizing w with
  | nil => exact hw
  | cons file rest ih =>
    rw [writeFiles]
    split
    · exact hw
    · next w₁ hw₁ =>
      rw [write_joinPath (hnames file List.mem_cons_self) hd hw₁]
      refine ih ?_ (Workspace.locate_put hd _) (hput w file List.mem_cons_self hw) ?_
      · exact fun other hother => hnames other (List.mem_cons_of_mem _ hother)
      · exact fun w other hother => hput w other (List.mem_cons_of_mem _ hother)

/-- The directory stays where it is. -/
theorem locate_writeFiles {files : List (String × String)}
    (hnames : ∀ file ∈ files, IsFileName file.1) (hd : w.locate directory = .ok d) :
    (writeFiles directory w files).2.locate directory = .ok d :=
  writeFiles_keeps (P := (·.locate directory = .ok d)) hnames hd hd
    fun _ _ _ h => Workspace.locate_put h _

theorem isDirectory_writeFiles {files : List (String × String)}
    (hnames : ∀ file ∈ files, IsFileName file.1) (hd : w.locate directory = .ok d)
    (hdirectory : w.isDirectory d = true) :
    (writeFiles directory w files).2.isDirectory d = true :=
  writeFiles_keeps (P := (·.isDirectory d = true)) hnames hd hdirectory fun _ _ _ h => h

/-- Only files in the directory change, and only those that are written. -/
theorem content?_writeFiles {files : List (String × String)}
    (hnames : ∀ file ∈ files, IsFileName file.1) (hd : w.locate directory = .ok d) {q : Place}
    (hq : ∀ file ∈ files, q ≠ d ++ [file.1]) :
    (writeFiles directory w files).2.content? q = w.content? q := by
  refine writeFiles_keeps (P := (·.content? q = w.content? q)) hnames hd rfl ?_
  intro w' file hfile h
  rw [Workspace.content?_put, if_neg (hq file hfile), h]

/-- Without a failure every file is there with its content. -/
theorem content?_of_writeFiles_none {files : List (String × String)}
    (hnames : ∀ file ∈ files, IsFileName file.1) (hdistinct : (files.map Prod.fst).Nodup)
    (hd : w.locate directory = .ok d) (hnone : (writeFiles directory w files).1 = none) :
    ∀ file ∈ files, (writeFiles directory w files).2.content? (d ++ [file.1]) =
      some [.bytes (Text.bytes file.2)] := by
  induction files generalizing w with
  | nil => nofun
  | cons file rest ih =>
    obtain ⟨hnew, hdistinct⟩ := List.nodup_cons.1 hdistinct
    have hrest : ∀ other ∈ rest, IsFileName other.1 :=
      fun other hother => hnames other (List.mem_cons_of_mem _ hother)
    rw [writeFiles] at hnone ⊢
    split at hnone
    · cases hnone
    · next w₁ hw₁ =>
      have hd₁ : w₁.locate directory = .ok d := by
        rw [write_joinPath (hnames file List.mem_cons_self) hd hw₁]
        exact Workspace.locate_put hd _
      intro other hother
      rcases List.mem_cons.1 hother with rfl | hother
      · have hothers : ∀ later ∈ rest, d ++ [other.1] ≠ d ++ [later.1] := by
          intro later hlater heq
          have hname : other.1 = later.1 := by simpa using heq
          exact hnew (hname ▸ List.mem_map_of_mem hlater)
        rw [content?_writeFiles hrest hd₁ hothers,
          write_joinPath (hnames other List.mem_cons_self) hd hw₁, Workspace.content?_put,
          if_pos rfl]
      · exact ih hrest hdistinct hd₁ hnone other hother

end

/-- How `write` goes: the directory cannot be made and nothing changes, or it is made and the files
are written into its place. -/
theorem write_cases (directory : String) (f : Ssa.Function) (o : Ssa.Outcome) (w : Workspace) :
    (∃ e, write directory f o w = (some e, w)) ∨
    ∃ w₁ d, write directory f o w = writeFiles directory w₁ (files f o) ∧
      (∀ q, w₁.content? q = w.content? q) ∧ w₁.locate directory = .ok d ∧
      w₁.isDirectory d = true := by
  rw [write]
  split
  · next e he => exact .inl ⟨e, rfl⟩
  · next w₁ hw₁ =>
    obtain ⟨hfiles, d, hd, hdirectory⟩ := Workspace.of_makeDirectories hw₁
    exact .inr ⟨w₁, d, rfl, hfiles, hd, hdirectory⟩

/-- **File names are safe and dumps stay in their directory.** Whatever bytes the name of a function
consists of, its file name is a readable part of safe characters, which has no underscore or dot at
its ends, a dash and eight hexadecimal digits; so there is no slash in it, it does not begin with a
dot and does not stand for a directory. A dump changes no other file than the two of the function,
which lie in the place of the directory that was asked for, and if it does not fail both are there. -/
theorem dump_lies_inside :
    (∀ bytes, ∃ base digits, Named (fileNameOfBytes bytes) base digits) ∧
    (∀ bytes, (∀ c ∈ (fileNameOfBytes bytes).toList, IsPortable c) ∧
      '/' ∉ (fileNameOfBytes bytes).toList ∧ (fileNameOfBytes bytes).toList.head? ≠ some '.' ∧
      fileNameOfBytes bytes ≠ "." ∧ fileNameOfBytes bytes ≠ "..") ∧
    ∀ (directory : String) (f : Ssa.Function) (o : Ssa.Outcome) (w : Workspace),
      (∀ q, (write directory f o w).2.content? q ≠ w.content? q →
        ∃ d, (write directory f o w).2.locate directory = .ok d ∧
          (write directory f o w).2.isDirectory d = true ∧
          (q = d ++ [fileName f.text ++ ".dot"] ∨ q = d ++ [fileName f.text ++ ".ssa"])) ∧
      ((write directory f o w).1 = none →
        ∃ d, (write directory f o w).2.locate directory = .ok d ∧
          (write directory f o w).2.isDirectory d = true ∧
          ∀ file ∈ files f o, (write directory f o w).2.content? (d ++ [file.1]) =
            some [.bytes (Text.bytes file.2)]) := by
  refine ⟨named_fileNameOfBytes, ?_, ?_⟩
  · intro bytes
    obtain ⟨base, digits, hnamed⟩ := named_fileNameOfBytes bytes
    have hname := @isFileName_append bytes "" (by simp)
    rw [String.append_empty] at hname
    exact ⟨fun c => hnamed.portable, hname.no_slash, hnamed.head?_ne_dot, hname.ne_dot,
      hname.ne_dots⟩
  · intro directory f o w
    have hnames : ∀ file ∈ files f o, IsFileName file.1 := fun _ => isFileName_of_mem_files
    rcases write_cases directory f o w with ⟨e, hwrite⟩ | ⟨w₁, d, hwrite, hfiles, hd, hdirectory⟩
    · rw [hwrite]
      exact ⟨fun q hq => absurd rfl hq, nofun⟩
    · rw [hwrite]
      refine ⟨?_, ?_⟩
      · intro q hq
        refine ⟨d, locate_writeFiles hnames hd, isDirectory_writeFiles hnames hd hdirectory, ?_⟩
        by_contra hother
        refine hq ((content?_writeFiles hnames hd ?_).trans (hfiles q))
        rintro file hfile rfl
        refine hother ?_
        rcases List.mem_cons.1 hfile with rfl | hfile
        · exact .inl rfl
        · rw [List.mem_singleton.1 hfile]
          exact .inr rfl
      · intro hnone
        exact ⟨d, locate_writeFiles hnames hd, isDirectory_writeFiles hnames hd hdirectory,
          content?_of_writeFiles_none hnames (nodup_files f o) hd hnone⟩

namespace Sample

/-- A function whose name reads like a path that leads out of a directory. -/
def climbing : Ssa.Function := { text := "../../p.F$1", name := "F$1" }

/-- An outcome without any statement. -/
def blank : Ssa.Outcome :=
  ⟨⟨[], none, fun _ => [], fun _ => []⟩, ⟨.const .empty, .const .empty, 0⟩⟩

/-- The dump of this function is written, and both files lie in the directory, also if its path goes
through another one that has to be made first. -/
theorem climbing_lies_inside :
    (write "tmp/../out" climbing blank {}).1 = none ∧
    ∀ file ∈ files climbing blank,
      (write "tmp/../out" climbing blank {}).2.content? ["out", file.1] =
        some [.bytes (Text.bytes file.2)] := by
  have hnone : (write "tmp/../out" climbing blank {}).1 = none := by decide +kernel
  have hout : ((write "tmp/../out" climbing blank {}).2.locate "tmp/../out").toOption =
      some ["out"] := by decide +kernel
  obtain ⟨d, hd, -, hfiles⟩ := (dump_lies_inside.2.2 "tmp/../out" climbing blank {}).2 hnone
  rw [hd] at hout
  cases hout
  exact ⟨hnone, hfiles⟩

end Sample

end LeakCheck.Dump
