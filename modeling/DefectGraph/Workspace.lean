import DefectGraph.Graph.Node
import DefectGraph.LongName
import DefectGraph.Record

/-!
# The workspace of a run

## Main Definitions

* `Failure` - why a run or a task ends early.
* `Notice` - what a run reports on its way.
* `Workspace` - the files, the numbers drawn and the notices so far.
* `Job` - work in a workspace that may fail.
* `Job.readSource`, `Job.writeFile`, `Job.copyOnce`, `Job.writeTable` - the steps that touch files.

## Design Notes

What was done before a failure stays done: files that were written, numbers that were drawn, notices.
-/

namespace DefectGraph

open DefectGraph.Graph

/-- Why a run or a task ends early. -/
inductive Failure where
  | readFile (path : Path) (error : FileError)
  | createDirectory (path : Path) (error : FileError)
  | writeFile (path : Path) (error : FileError)
  | copyFile (source target : Path) (error : FileError)
  | createOutput (path : Path) (error : FileError)
  | createTable (path : Path) (error : FileError)
  | records (error : BugRecord.ReadError)
  /-- No tree can be made of the source. -/
  | unparsed (path : Path)
  /-- A sum of bug counts is too large. -/
  | overflow
  deriving DecidableEq, Repr

/-- The text that reports the failure. -/
def Failure.message : Failure → String
  | .readFile path e => "Failed to read file " ++ path ++ ": " ++ e.message
  | .createDirectory path e => "Failed to create directory " ++ path ++ ": " ++ e.message
  | .writeFile path e => "Failed to write " ++ path ++ ": " ++ e.message
  | .copyFile source target e => "Failed to copy " ++ source ++ " to " ++ target ++ ": " ++ e.message
  | .createOutput path e => "Failed to create output directory " ++ path ++ ": " ++ e.message
  | .createTable path e => "Failed to create " ++ path ++ ": " ++ e.message
  | .records e => e.message
  | .unparsed path => "Failed to parse " ++ path ++ ": tree-sitter produced no syntax tree"
  | .overflow => "attempt to add with overflow"

/-- What a run reports on its way. -/
inductive Notice where
  /-- A source is not text everywhere. -/
  | lossySource (path : Path)
  /-- A source has syntax errors. -/
  | syntaxErrors
  /-- A record names no declaration. -/
  | skippedRecord (task longName : String) (error : LongName.MatchError)
  /-- A record names one more declaration than the one kept; both are given by signature. -/
  | ambiguousName (longName kept ignored : String)
  | failedTask (task : String) (failure : Failure)
  deriving DecidableEq, Repr

/-- How much a notice matters. -/
inductive Severity where
  | warning
  | error
  deriving DecidableEq, Repr

namespace Notice

/-- How much the notice matters. -/
def severity : Notice → Severity
  | .failedTask .. => .error
  | _ => .warning

/-- The text of the notice. -/
def message : Notice → String
  | .lossySource _ => "source is not valid UTF-8; decoding lossily"
  | .syntaxErrors => "Java source has syntax errors; continuing with recovered tree"
  | .skippedRecord _ _ e => "skipping record: " ++ e.message
  | .ambiguousName .. => "ambiguous long name; keeping first match"
  | .failedTask _ .overflow => "task panicked: " ++ Failure.overflow.message
  | .failedTask _ failure => "task failed: " ++ failure.message

/-- The named details of the notice. -/
def fields : Notice → List (String × String)
  | .lossySource path => [("path", path)]
  | .syntaxErrors => []
  | .skippedRecord task longName _ => [("task", task), ("long_name", longName)]
  | .ambiguousName longName kept ignored =>
    [("long_name", longName), ("kept", kept), ("ignored", ignored)]
  | .failedTask task _ => [("task", task)]

end Notice

/-- The files, the numbers drawn and the notices so far, the oldest first. -/
structure Workspace where
  files : FileStore
  ids : Ids
  notices : List Notice

/-- Work in a workspace that may fail. -/
abbrev Job (α : Type) : Type := ExceptT Failure (StateM Workspace) α

namespace Job

/-- Reports something. -/
def report (notices : List Notice) : Job Unit :=
  modify fun w => { w with notices := w.notices ++ notices }

/-- Draws a node number. -/
def drawNode : Job Nat :=
  modifyGet fun w => let (id, ids) := w.ids.nextNode; (id, { w with ids })

/-- Looks something up in the files. -/
def ask {α : Type} (failure : FileError → Failure) (question : FileStore → Except FileError α) :
    Job α := do
  match question (← get).files with
  | .ok a => return a
  | .error e => throw (failure e)

/-- Changes the files. -/
def change (failure : FileError → Failure) (action : FileStore → Except FileError FileStore) :
    Job Unit := do
  let files ← ask failure action
  modify fun w => { w with files }

/-- The text of a source file; what is no text is replaced, with a notice. -/
def readSource (path : Path) : Job String := do
  let bytes ← ask (.readFile path) fun files => files.read path
  match Text.Utf8.decode? bytes with
  | some text => return text
  | none =>
    report [.lossySource path]
    return Text.Utf8.decodeLossy bytes

/-- Makes the directories that a file stands in. -/
def makeParents (path : Path) : Job Unit :=
  match path.parent? with
  | some dir => change (.createDirectory dir) fun files => files.makeDirectories dir
  | none => return ()

/-- Writes a file below a directory, with the directories on the way. -/
def writeFile (root rel : Path) (content : Bytes) : Job Unit := do
  let path := root.join rel
  makeParents path
  change (.writeFile path) fun files => files.write path content

/-- Copies a file to a place below a directory, unless something is there already. -/
def copyOnce (source root rel : Path) : Job Unit := do
  let path := root.join rel
  if (← get).files.hasPath path then return ()
  makeParents path
  change (.copyFile source path) fun files => files.copy source path

/-- Writes a table, with the directories on the way. -/
def writeTable (table : Csv.Table) (path : Path) : Job Unit := do
  if path.parent? != some "" then makeParents path
  change (.createTable path) fun files => files.write path (Text.Utf8.encode table.text)

/-- The records in a file. -/
def readRecords (path : Path) : Job (List BugRecord) := do
  match BugRecord.readAll (← get).files path with
  | .ok records => return records
  | .error e => throw (.records e)

end Job

end DefectGraph
