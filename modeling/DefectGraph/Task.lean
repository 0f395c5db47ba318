import DefectGraph.Digest.Blake3
import DefectGraph.Record
import DefectGraph.Text.Utf8

/-!
# Tasks

The records of one source file at one version of a project are worked on together.

## Main Definitions

* `SourceVersion` - a source file at a version of a project.
* `Task` - the records of one source file.
* `Task.group` - the tasks of a list of records.

## Design Notes

A key is a digest of the project, the version and the path with a zero behind each of them. As long as these
hold no zero themselves, the bytes that are digested tell the source.
-/

namespace DefectGraph

/-- A source file at a version of a project. -/
structure SourceVersion where
  project : String
  hash : String
  sourceFile : String
  deriving DecidableEq, Repr

/-- The records of one source file. -/
structure Task where
  source : SourceVersion
  records : List BugRecord
  deriving DecidableEq, Repr

/-- The source file that a record is about. -/
def BugRecord.source (r : BugRecord) : SourceVersion := ⟨r.project, r.hash, r.sourceFile⟩

namespace SourceVersion

/-- The name of the source file in notices. -/
def label (s : SourceVersion) : String := s.project ++ "@" ++ s.hash ++ ":" ++ s.sourceFile

/-- The bytes that the key of a source file is drawn from: each part ends with a zero. -/
def keyBytes (s : SourceVersion) : List UInt8 :=
  [s.project, s.hash, s.sourceFile].flatMap fun part => Text.Utf8.encode part ++ [0]

/-- The key that names the copy of a source file: the first half of a hash. -/
def key (s : SourceVersion) : String := Blake3.hex ((Blake3.hash s.keyBytes).take 16)

/-- The path of the copy of a source file, from the output directory. -/
def classFile (s : SourceVersion) : Path := s.project ++ "/classes/" ++ s.key ++ ".java"

end SourceVersion

namespace Task

/-- The task with one more record, if the record is about its source file. -/
def add (r : BugRecord) (t : Task) : Task :=
  if t.source == r.source then { t with records := t.records ++ [r] } else t

/-- Files a record with the task of its source file; when there is none yet, a new one comes behind all
others. -/
def file (tasks : List Task) (r : BugRecord) : List Task :=
  if tasks.any fun t => t.source == r.source then tasks.map (add r)
  else tasks ++ [⟨r.source, [r]⟩]

/-- The tasks of records, which are filed one after the other. -/
def group (records : List BugRecord) : List Task := records.foldl file []

end Task

end DefectGraph
