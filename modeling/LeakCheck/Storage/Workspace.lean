import LeakCheck.Log.Record
import LeakCheck.Text.Utf8

/-!
# The workspace

The files and directories that a run sees and makes. Paths are relative to the working directory;
a place is the list of the names on the way to it. Directories above the working directory and the
root of the system are there, and nothing is known to be in them.
-/

namespace LeakCheck.Storage

/-- A part of the content of a file. -/
inductive Piece where
  /-- Bytes. -/
  | bytes (bs : List UInt8)
  /-- A log record. -/
  | record (r : Log.Record)
  deriving DecidableEq, Repr, Inhabited

/-- The names on the way to a file or directory. -/
abbrev Place := List String

/-- Comparing places decides their equality. -/
instance : LawfulBEq Place := inferInstance

/-- The path to a place. -/
def Place.path : Place → String
  | "/" :: names => "/" ++ Text.join "/" names
  | names => Text.join "/" names

/-- The place that a part of a path leads to. -/
def Place.next (p : Place) (part : String) : Place :=
  if part = ".." then
    if p = ["/"] then p else if p.all (· == "..") then p ++ [part] else p.dropLast
  else p ++ [part]

/-- Files and directories. -/
structure Workspace where
  /-- The directories other than the working directory. -/
  directories : List Place := []
  /-- The files and what they hold. -/
  files : List (Place × List Piece) := []
  deriving Repr, Inhabited

/-- Why a file or directory cannot be used. -/
inductive Cause where
  /-- It is not there. -/
  | missing
  /-- A file is where a directory should be. -/
  | notDirectory
  /-- A directory is where a file should be. -/
  | isDirectory
  /-- A file is where a directory should be made. -/
  | exists
  /-- A name is longer than names can be. -/
  | nameTooLong
  /-- The path has a character that no path has. -/
  | invalid
  deriving DecidableEq, Repr, Inhabited

/-- The wording of a cause. -/
def Cause.message : Cause → String
  | .missing => "no such file or directory"
  | .notDirectory => "not a directory"
  | .isDirectory => "is a directory"
  | .exists => "file exists"
  | .nameTooLong => "file name too long"
  | .invalid => "invalid argument"

/-- What failed, on which path, and why. -/
structure PathError where
  /-- The operation. -/
  operation : String
  /-- The path as it was given. -/
  path : String
  /-- The cause. -/
  cause : Cause
  deriving DecidableEq, Repr, Inhabited

/-- The wording of a failure. -/
def PathError.message (e : PathError) : String :=
  e.operation ++ " " ++ e.path ++ ": " ++ e.cause.message

/-- The parts of a path between slashes. -/
def splitPath (path : String) : List String :=
  ((path.toList.splitOn '/').map String.ofList).filter fun s => s ≠ "" ∧ s ≠ "."

/-- Whether a path must be a directory by its form. -/
def asksDirectory (path : String) : Bool :=
  path.endsWith "/" || path.endsWith "/." || path == "."

/-- Follows one part of a path, from the names that remain of those before it. A name is taken back
by `..`, which remains only where there is no name before it; there is nothing above a root. -/
def follow (rooted : Bool) (names : List String) (part : String) : List String :=
  if part = ".." ∧ names ≠ [] ∧ names.getLast? ≠ some ".." then names.dropLast
  else if part = ".." ∧ rooted then names
  else names ++ [part]

/-- A directory and a name in it as a path. -/
def joinPath (directory name : String) : String :=
  let rooted := directory.startsWith "/"
  (if rooted then "/" else "") ++
    Text.join "/" ((splitPath directory).foldl (follow rooted) [] ++ [name])

namespace Workspace

/-- Whether a place is a directory. -/
def isDirectory (w : Workspace) (p : Place) : Bool :=
  p.all (· == "..") || p == ["/"] || p ∈ w.directories

/-- What the file at a place holds. -/
def content? (w : Workspace) (p : Place) : Option (List Piece) := w.files.lookup p

/-- Goes from a place along the parts of a path. All but the last must lead to directories. -/
def walk (w : Workspace) (p : Place) : List String → Except Cause Place
  | [] => .ok p
  | s :: rest =>
    if w.isDirectory p then
      if 255 < s.utf8ByteSize then .error .nameTooLong
      else w.walk (p.next s) rest
    else if (w.content? p).isSome then .error .notDirectory
    else .error .missing

/-- The place of a path, if the directories on the way are there. -/
def locate (w : Workspace) (path : String) : Except Cause Place :=
  if path = "" then .error .missing
  else if path.toList.contains '\x00' then .error .invalid
  else w.walk (if path.startsWith "/" then ["/"] else []) (splitPath path)

/-- Sets what the file at a place holds. -/
def put (w : Workspace) (p : Place) (content : List Piece) : Workspace :=
  { w with files := if (w.content? p).isSome then
      w.files.map fun f => if f.1 = p then (p, content) else f
    else w.files ++ [(p, content)] }

/-- Adds to what the file at a place holds. -/
def append (w : Workspace) (p : Place) (more : Piece) : Workspace :=
  w.put p ((w.content? p).getD [] ++ [more])

/-- Adds a directory. -/
def addDirectory (w : Workspace) (p : Place) : Workspace :=
  if w.isDirectory p then w else { w with directories := w.directories ++ [p] }

/-- Puts a file at a path, with the directories on the way. -/
def place (w : Workspace) (path : String) (content : List UInt8) : Workspace :=
  let p := splitPath path
  let w := (List.range p.length).foldl (fun w i => w.addDirectory (p.take i)) w
  w.put p [.bytes content]

/-- Takes the file at a path away. -/
def remove (w : Workspace) (path : String) : Workspace :=
  { w with files := w.files.filter (·.1 ≠ splitPath path) }

/-- The bytes of a file. -/
def read (w : Workspace) (path : String) : Except PathError (List UInt8) :=
  match w.locate path with
  | .error cause => .error ⟨"open", path, cause⟩
  | .ok p =>
    if w.isDirectory p then .error ⟨"read", path, .isDirectory⟩
    else
      match w.content? p with
      | none => .error ⟨"open", path, .missing⟩
      | some content =>
        if asksDirectory path then .error ⟨"open", path, .notDirectory⟩
        else
          .ok (content.flatMap fun
            | .bytes bs => bs
            | .record _ => [])

/-- The place of a file that can be written. -/
def writable (w : Workspace) (path : String) : Except PathError Place :=
  match w.locate path with
  | .error cause => .error ⟨"open", path, cause⟩
  | .ok p =>
    if w.isDirectory p then .error ⟨"open", path, .isDirectory⟩
    else if asksDirectory path then
      .error ⟨"open", path, if (w.content? p).isSome then .notDirectory else .isDirectory⟩
    else if w.isDirectory p.dropLast then .ok p
    else
      .error ⟨"open", path, if (w.content? p.dropLast).isSome then .notDirectory else .missing⟩

/-- Writes a file, in place of what it held. -/
def write (w : Workspace) (path content : String) : Except PathError Workspace :=
  (w.writable path).map fun p => w.put p [.bytes (Text.bytes content)]

/-- Opens a file to add to it. -/
def openToAppend (w : Workspace) (path : String) : Except PathError (Place × Workspace) :=
  (w.writable path).map fun p => (p, if (w.content? p).isSome then w else w.put p [])

/-- The path without its last name. -/
def parentPath (path : String) : String :=
  let names := path.toList.reverse.dropWhile (· = '/')
  String.ofList ((names.dropWhile (· ≠ '/')).drop 1).reverse

/-- The paths on the way to a path and the path itself. -/
def ancestors (path : String) : List String :=
  let rec go : Nat → String → List String
    | 0, _ => []
    | n + 1, path => if path = "" then [] else go n (parentPath path) ++ [path]
  go path.length path

/-- Makes a directory in one that is there. -/
def makeDirectory (w : Workspace) (path : String) : Except PathError Workspace :=
  match w.locate path with
  | .error cause => .error ⟨"mkdir", path, cause⟩
  | .ok p =>
    if (w.content? p).isNone then .ok (w.addDirectory p)
    else .error ⟨"mkdir", path, if asksDirectory path then .exists else .notDirectory⟩

/-- Makes a directory and those on the way to it. -/
def makeDirectories (w : Workspace) (path : String) : Except PathError Workspace :=
  if path = "" then .error ⟨"mkdir", path, .missing⟩ else (ancestors path).foldlM makeDirectory w

/-- The files in the working directory with their paths. -/
def listing (w : Workspace) : List (String × List Piece) :=
  (w.files.filter fun f => f.1.head? ≠ some "/" ∧ f.1.head? ≠ some "..").map fun f =>
    (Place.path f.1, f.2)

end Workspace

end LeakCheck.Storage
