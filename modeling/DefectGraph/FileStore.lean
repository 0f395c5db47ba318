import DefectGraph.Path
import DefectGraph.Text.Utf8

/-!
# Files

The files and directories that a program sees, as a value.

## Main Definitions

* `FileStore` - files with their bytes, and directories.
* `FileError` - why a file operation fails.
* `FileStore.read`, `FileStore.write`, `FileStore.makeDirectories`, `FileStore.copy` - the operations.

## Design Notes

A path is followed part by part from the current directory; everything it goes through has to be a
directory. Two dots lead to the directory above, also above the current one. A path with a zero byte leads
nowhere.
-/

namespace DefectGraph

/-- Why a file operation fails. -/
inductive FileError where
  | notFound
  | alreadyExists
  | notDirectory
  | isDirectory
  /-- What is to be copied is no file. -/
  | notRegular
  /-- The path holds a zero byte. -/
  | zeroByte
  deriving DecidableEq, Repr

/-- The text that reports the error. -/
def FileError.message : FileError → String
  | .notFound => "No such file or directory (os error 2)"
  | .alreadyExists => "File exists (os error 17)"
  | .notDirectory => "Not a directory (os error 20)"
  | .isDirectory => "Is a directory (os error 21)"
  | .notRegular => "the source path is neither a regular file nor a symlink to a regular file"
  | .zeroByte => "file name contained an unexpected NUL byte"

/-- The content of a file. -/
abbrev Bytes : Type := List UInt8

/-- A file or a directory. -/
inductive FileEntry where
  | file (content : Bytes)
  | directory
  deriving DecidableEq, Repr

/-- A place in the tree of directories: the names that lead there from the current directory. Leading
double dots lead above it, and a leading slash stands for the root. -/
abbrev Location : Type := List String

/-- Files and directories by their places. -/
structure FileStore where
  entries : List (Location × FileEntry)
  deriving Repr

namespace FileStore

/-- No files. -/
def empty : FileStore := ⟨[]⟩

/-- Nothing but the current directory, the root, and the directories above is always there. -/
def isFixed (l : Location) : Bool :=
  l.all (fun part => part == "..") || l == ["/"]

/-- What is at a place. -/
def at? (s : FileStore) (l : Location) : Option FileEntry :=
  if isFixed l then some .directory else s.entries.lookup l

/-- Puts something at a place. -/
def put (s : FileStore) (l : Location) (entry : FileEntry) : FileStore :=
  if (s.entries.lookup l).isSome then
    ⟨s.entries.map fun (k, old) => if k == l then (k, entry) else (k, old)⟩
  else ⟨s.entries ++ [(l, entry)]⟩

/-- The place that a part of a path leads to from a directory. -/
def step (l : Location) (part : String) : Location :=
  if part.isEmpty || part == "." then l
  else if part == ".." then
    if l == ["/"] then l
    else if l.getLast?.all (fun last => last == "..") then l ++ [".."]
    else l.dropLast
  else l ++ [part]

/-- Follows the parts of a path; everything on the way has to be a directory. -/
def follow (s : FileStore) (l : Location) : List String → Except FileError Location
  | [] => .ok l
  | part :: rest =>
    match s.at? l with
    | some .directory => s.follow (step l part) rest
    | some (.file _) => .error .notDirectory
    | none => .error .notFound

/-- The place that a path leads to, which may hold nothing. -/
def locate (s : FileStore) (p : Path) : Except FileError Location :=
  if p.isEmpty then .error .notFound
  else if p.hasZero then .error .zeroByte
  else if p.isAbsolute then s.follow ["/"] p.parts
  else s.follow [] p.parts

/-- What a path leads to. -/
def find (s : FileStore) (p : Path) : Except FileError FileEntry := do
  let l ← s.locate p
  match s.at? l with
  | some entry => return entry
  | none => throw .notFound

/-- A path leads to something. -/
def hasPath (s : FileStore) (p : Path) : Bool :=
  match s.find p with
  | .ok _ => true
  | .error _ => false

/-- A path leads to a directory. -/
def isDirectory (s : FileStore) (p : Path) : Bool :=
  match s.find p with
  | .ok .directory => true
  | _ => false

/-- The content of a file. -/
def read (s : FileStore) (p : Path) : Except FileError Bytes := do
  match ← s.find p with
  | .file content => return content
  | .directory => throw .isDirectory

/-- Drops the slashes at the end of a path that is more than slashes. -/
def dropSlashes (p : Path) : Path :=
  match p.toList.reverse.dropWhile fun c => c == '/' with
  | [] => p
  | rest => String.ofList rest.reverse

/-- Makes a file with the given content, or gives it that content. A path that ends with a slash leads
to no file. -/
def write (s : FileStore) (p : Path) (content : Bytes) : Except FileError FileStore :=
  let stripped := dropSlashes p
  if stripped != p then
    match s.find stripped with
    | .ok (.file _) => .error .notDirectory
    | .ok .directory => .error .isDirectory
    | .error .notFound =>
      match s.locate stripped with
      | .ok _ => .error .isDirectory
      | .error e => .error e
    | .error e => .error e
  else do
    let l ← s.locate p
    match s.at? l with
    | some .directory => throw .isDirectory
    | _ => return s.put l (.file content)

/-- Makes a directory. -/
def makeDirectory (s : FileStore) (p : Path) : Except FileError FileStore := do
  let l ← s.locate (dropSlashes p)
  match s.at? l with
  | some _ => throw .alreadyExists
  | none => return s.put l .directory

/-- A path and the paths above it, up to the current directory or the root; each step shortens the path,
so its characters bound their number. -/
def ancestors (rounds : List Char) (p : Path) : List Path :=
  match rounds with
  | [] => []
  | _ :: rounds =>
    match p.parent? with
    | none => []
    | some parent => p :: ancestors rounds parent

/-- Makes directories from the outside in; those that are there already are left alone. -/
def makeEach (s : FileStore) : List Path → Except FileError FileStore
  | [] => .ok s
  | p :: rest =>
    match s.makeDirectory p with
    | .ok s => s.makeEach rest
    | .error e => if e = .alreadyExists ∧ s.isDirectory p then s.makeEach rest else .error e

/-- The innermost directories of a path that are missing, from the outside in. -/
def missing (s : FileStore) : List Path → List Path → Except FileError (List Path)
  | inner, [] => .ok inner
  | inner, p :: rest =>
    match s.makeDirectory p with
    | .ok _ => .ok (p :: inner)
    | .error .notFound => s.missing (p :: inner) rest
    | .error e => if e = .alreadyExists ∧ s.isDirectory p then .ok inner else .error e

/-- Makes a directory and all that are missing above it. -/
def makeDirectories (s : FileStore) (p : Path) : Except FileError FileStore := do
  s.makeEach (← s.missing [] (ancestors p.toList p))

/-- Copies a file. -/
def copy (s : FileStore) (source target : Path) : Except FileError FileStore := do
  match ← s.find source with
  | .directory => throw .notRegular
  | .file content => s.write target content

end FileStore

end DefectGraph
