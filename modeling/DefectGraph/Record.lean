import DefectGraph.Csv.Reader
import DefectGraph.Csv.Table
import DefectGraph.FileStore
import DefectGraph.Number.Integer
import DefectGraph.Text.Space

/-!
# Bug records and result tables

## Main Definitions

* `BugRecord` - one method known to be buggy.
* `BugRecord.readAll` - the records of a table with a header.
* `BugRecord.table`, `nodeTable`, `predictionTable`, `edgeTable` - the tables that are written.

## Design Notes

Columns are found by the names in the header, whatever their order, and columns of other names are passed
over. A row without a header to go by is read in the order of `columns`. Faults are reported with the place
of the row, and with the field where one is at fault.
-/

namespace DefectGraph

open DefectGraph.Csv DefectGraph.Number

/-- One method known to be buggy. -/
structure BugRecord where
  project : String
  /-- The path of the source file, from the working directory. -/
  sourceFile : String
  hash : String
  longName : String
  parent : String
  bugs : Int
  deriving DecidableEq, Repr

namespace BugRecord

/-- The columns of a table of records. -/
inductive Column where
  | project
  | sourceFile
  | hash
  | longName
  | parent
  | bugs
  deriving DecidableEq, Repr

/-- The columns in order. -/
def columns : List Column := [.project, .sourceFile, .hash, .longName, .parent, .bugs]

/-- The name of a column. -/
def Column.name : Column → String
  | .project => "Project"
  | .sourceFile => "Source-file"
  | .hash => "Hash"
  | .longName => "Long-Name"
  | .parent => "Parent"
  | .bugs => "Number-Of-Bugs"

/-- The column of a name. -/
def column? (name : String) : Option Column :=
  columns.find? fun c => c.name == name

/-- The text of a record in a column. -/
def cell (r : BugRecord) : Column → String
  | .project => r.project
  | .sourceFile => r.sourceFile
  | .hash => r.hash
  | .longName => r.longName
  | .parent => r.parent
  | .bugs => toString r.bugs

/-- The table of records. -/
def table (records : List BugRecord) : Table :=
  ⟨columns.map Column.name, records.map fun r => columns.map r.cell⟩

/-! ### Reading -/

/-- What is wrong with a row. -/
inductive RowFault where
  | unequalLengths (length expected : Nat)
  /-- A field is not text from a byte on. -/
  | notText (field byte : Nat)
  | missing (column : Column)
  | duplicate (column : Column)
  | badInteger (field : Nat) (error : IntegerError)
  /-- Without column names, there are too few fields. -/
  | tooShort (length : Nat)
  deriving DecidableEq, Repr

/-- Why records cannot be read. -/
inductive ReadError where
  | unopened (path : Path) (error : FileError)
  /-- A row is malformed; rows are counted from one and the header is the first. -/
  | malformed (path : Path) (row : Nat) (position : Position) (fault : RowFault)
  deriving DecidableEq, Repr

/-- The place of a row in a report. -/
def placeText (p : Position) : String :=
  "record " ++ toString p.record ++ " (line: " ++ toString p.line ++ ", byte: " ++ toString p.byte ++ "): "

/-- The text that reports a fault at a place. -/
def RowFault.message (p : Position) : RowFault → String
  | .unequalLengths length expected =>
    "CSV error: " ++ placeText p ++ "found record with " ++ toString length
      ++ " fields, but the previous record has " ++ toString expected ++ " fields"
  | .notText field byte =>
    "CSV parse error: record " ++ toString p.record ++ " (line " ++ toString p.line ++ ", field: "
      ++ toString field ++ ", byte: " ++ toString p.byte ++ "): invalid utf-8: invalid UTF-8 in field "
      ++ toString field ++ " near byte index " ++ toString byte
  | .missing column => "CSV deserialize error: " ++ placeText p ++ "missing field `" ++ column.name ++ "`"
  | .duplicate column =>
    "CSV deserialize error: " ++ placeText p ++ "duplicate field `" ++ column.name ++ "`"
  | .badInteger field error =>
    "CSV deserialize error: " ++ placeText p ++ "field " ++ toString field ++ ": " ++ error.message
  | .tooShort length =>
    "CSV deserialize error: " ++ placeText p ++ "invalid length " ++ toString length
      ++ ", expected struct BugRecord with 6 elements"

/-- The text that reports the error. -/
def ReadError.message : ReadError → String
  | .unopened path error => "Failed to open bug records " ++ path ++ ": " ++ error.message
  | .malformed path row position fault =>
    "Malformed bug record at row " ++ toString row ++ " of " ++ path ++ ": " ++ fault.message position

/-- A number of bugs: digits after an optional sign, or after `0x` in base sixteen. -/
def readCount (text : String) : Except IntegerError Int :=
  match text.toList with
  | '0' :: 'x' :: rest => Integer.parse 16 .signed64 rest
  | digits => Integer.parse 10 .signed64 digits

/-- Blanks among the plain characters that surround a field. -/
def isPlainSpace (b : UInt8) : Bool :=
  b == 32 || b == 9 || b == 10 || b == 12 || b == 13

/-- A field without the plain blanks around it. -/
def trimPlain (field : List UInt8) : List UInt8 :=
  ((field.dropWhile isPlainSpace).reverse.dropWhile isPlainSpace).reverse

/-- The number of bytes that the characters before the first piece that is none take. -/
def textLength (field : List UInt8) : Nat :=
  let good := (Text.Utf8.scalars field).takeWhile Option.isSome
  good.foldl (fun size c => size + (c.getD ' ').utf8Size) 0

/-- The text of fields without the white space around them, or the first field that is no text. -/
def fieldTexts (index : Nat) : List (List UInt8) → Except RowFault (List String)
  | [] => .ok []
  | field :: rest =>
    let plain := trimPlain field
    match Text.Utf8.decode? plain with
    | none => .error (.notText index (textLength plain))
    | some text => (fieldTexts (index + 1) rest).map (String.ofList (Text.trim text.toList) :: ·)

/-- A field in its column, with its place in the row. -/
structure Placed where
  column : Column
  index : Nat
  text : String

/-- A number of bugs in a row. -/
def placedCount (p : Placed) : Except RowFault Int :=
  match readCount p.text with
  | .ok value => .ok value
  | .error e => .error (.badInteger p.index e)

/-- Sorts the fields of a row under their columns, from left to right; fields without a column are
passed over. -/
def place (found : List Placed) (index : Nat) : List (String × String) → Except RowFault (List Placed)
  | [] => .ok found
  | (name, text) :: rest =>
    match column? name with
    | none => place found (index + 1) rest
    | some column =>
      if found.any fun p => p.column == column then .error (.duplicate column)
      else
        let p : Placed := ⟨column, index, text⟩
        match column, placedCount p with
        | .bugs, .error fault => .error fault
        | _, _ => place (found ++ [p]) (index + 1) rest

/-- The field of a column. -/
def fieldOf (found : List Placed) (column : Column) : Except RowFault Placed :=
  match found.find? fun p => p.column == column with
  | some p => .ok p
  | none => .error (.missing column)

/-- The record of fields under their columns. -/
def ofPlaced (found : List Placed) : Except RowFault BugRecord := do
  let project ← fieldOf found .project
  let sourceFile ← fieldOf found .sourceFile
  let hash ← fieldOf found .hash
  let longName ← fieldOf found .longName
  let parent ← fieldOf found .parent
  let bugs ← placedCount (← fieldOf found .bugs)
  return ⟨project.text, sourceFile.text, hash.text, longName.text, parent.text, bugs⟩

/-- The record of fields by their order. -/
def ofOrdered (fields : List String) : Except RowFault BugRecord :=
  match fields with
  | project :: sourceFile :: hash :: longName :: parent :: bugs :: _ =>
    (placedCount ⟨.bugs, 5, bugs⟩).map fun bugs => ⟨project, sourceFile, hash, longName, parent, bugs⟩
  | _ => .error (.tooShort fields.length)

/-- The record of a row. A header that is no text gives no names to the columns. -/
def ofRow (header : RawRecord) (row : RawRecord) : Except RowFault BugRecord :=
  if row.fields.length != header.fields.length then
    .error (.unequalLengths row.fields.length header.fields.length)
  else do
    let fields ← fieldTexts 0 row.fields
    match fieldTexts 0 header.fields with
    | .ok names => ofPlaced (← place [] 0 (names.zip fields))
    | .error _ => ofOrdered fields

/-- The records of rows, the first of which has the given number. -/
def ofRows (path : Path) (header : RawRecord) (number : Nat) :
    List RawRecord → Except ReadError (List BugRecord)
  | [] => .ok []
  | row :: rest =>
    match ofRow header row with
    | .error fault => .error (.malformed path number row.position fault)
    | .ok record => (ofRows path header (number + 1) rest).map (record :: ·)

/-- The records of a table. -/
def ofBytes (path : Path) (bytes : Bytes) : Except ReadError (List BugRecord) :=
  match Csv.records bytes with
  | [] => .ok []
  | header :: rows => ofRows path header 2 rows

/-- The records of a table in a file; a directory holds none. -/
def readAll (files : FileStore) (path : Path) : Except ReadError (List BugRecord) :=
  match files.find path with
  | .error e => .error (.unopened path e)
  | .ok .directory => .ok []
  | .ok (.file bytes) => ofBytes path bytes

end BugRecord

/-! ### Result tables -/

/-- A node of a result. -/
structure NodeRow where
  id : Nat
  project : String
  classSourceFile : String
  methodSourceFile : String
  hash : String
  signature : String
  parent : String
  bugs : Int
  graphId : Option Nat
  deriving DecidableEq, Repr

/-- A node of a prediction. -/
structure PredictionRow where
  id : Nat
  methodSourceFile : String
  signature : String
  graphId : Option Nat
  deriving DecidableEq, Repr

/-- An edge of a result, between the numbers of nodes. -/
structure EdgeRow where
  source : Nat
  destination : Nat
  graphId : Option Nat
  deriving DecidableEq, Repr

/-- A number that may be missing. -/
def optionalNumber (n : Option Nat) : String := (n.map toString).getD ""

/-- The table of nodes. -/
def nodeTable (rows : List NodeRow) : Table :=
  ⟨["id", "project", "class-source-file", "method-source-file", "hash", "signature", "parent",
      "number-of-bugs", "graph-id"],
    rows.map fun r =>
      [toString r.id, r.project, r.classSourceFile, r.methodSourceFile, r.hash, r.signature, r.parent,
        toString r.bugs, optionalNumber r.graphId]⟩

/-- The table of nodes of a prediction. -/
def predictionTable (rows : List PredictionRow) : Table :=
  ⟨["id", "method-source-file", "signature", "graph-id"],
    rows.map fun r => [toString r.id, r.methodSourceFile, r.signature, optionalNumber r.graphId]⟩

/-- The table of edges. -/
def edgeTable (rows : List EdgeRow) : Table :=
  ⟨["source", "destination", "graph-id"],
    rows.map fun r => [toString r.source, toString r.destination, optionalNumber r.graphId]⟩

end DefectGraph
