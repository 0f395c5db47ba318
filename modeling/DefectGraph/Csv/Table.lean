/-!
# Writing comma-separated tables

A field is quoted only when it holds a comma, a quote or a line end; a quote inside is written twice. A
table without rows is written as nothing at all, without its header.

## Main Definitions

* `Table` - a header and rows.
* `writeField`, `writeRow` - how a field and a row are written.
* `Table.text` - how a table is written.
-/

namespace DefectGraph.Csv

/-- A table of text. -/
structure Table where
  header : List String
  rows : List (List String)
  deriving DecidableEq, Repr

/-- The field has to be quoted. -/
def needsQuotes (field : List Char) : Bool :=
  field.any fun c => c == ',' || c == '"' || c == '\n' || c == '\r'

/-- A field as it is written. -/
def writeField (field : List Char) : List Char :=
  if needsQuotes field then
    '"' :: field.flatMap (fun c => if c == '"' then ['"', '"'] else [c]) ++ ['"']
  else field

/-- A row as it is written, with its line end. -/
def writeRow (row : List String) : List Char :=
  List.intercalate [','] (row.map fun field => writeField field.toList) ++ ['\n']

/-- The text of a table. -/
def Table.text (t : Table) : String :=
  if t.rows.isEmpty then ""
  else String.ofList ((t.header :: t.rows).flatMap writeRow)

end DefectGraph.Csv
