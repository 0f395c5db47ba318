import DefectGraph.Toml.Quoted
import DefectGraph.Toml.Scalar

/-!
# Reading a configuration document

`Document.read?` reads a document line by line: headers of tables, and keys with values.

## Design Notes

Lists and tables in braces are nested at most `nestingLimit` deep. A table gets its keys in one place:
by its header, or by dotted keys inside one other table. Loops take a second list that bounds their
rounds, since every round takes a character.
-/

namespace DefectGraph.Toml

/-! ### Blanks, comments and keys -/

/-- A blank within a line. -/
def isLineBlank (c : Char) : Bool := c == ' ' || c == '\t'

/-- Drops the blanks in front of a text. -/
def dropBlanks (text : List Char) : List Char := text.dropWhile isLineBlank

/-- What follows a line break. -/
def afterBreak? : List Char → Option (List Char)
  | '\n' :: rest => some rest
  | '\r' :: '\n' :: rest => some rest
  | _ => none

/-- The line ends here. -/
def atLineEnd (text : List Char) : Bool :=
  text.isEmpty || (afterBreak? text).isSome

/-- Passes over a comment, if there is one; it holds no control characters. -/
def afterComment? (text : List Char) : Option (List Char) :=
  match text with
  | '#' :: rest =>
    let rest := rest.dropWhile fun c => !isControl c && c != '\n'
    if atLineEnd rest then some rest else none
  | _ => some text

/-- What follows the rest of a line, which is blank but for a comment. -/
def afterLine? (text : List Char) : Option (List Char) := do
  let rest ← afterComment? (dropBlanks text)
  if rest.isEmpty then return [] else afterBreak? rest

/-- Passes over blanks, comments and line breaks. -/
def afterGaps? (rounds text : List Char) : Option (List Char) :=
  match rounds with
  | [] => some text
  | _ :: rounds => do
    let rest ← afterComment? (dropBlanks text)
    match afterBreak? rest with
    | some rest => afterGaps? rounds rest
    | none => return rest

/-- The character can stand in a key without quotes. -/
def isKeyChar (c : Char) : Bool :=
  c.isAlphanum || c == '_' || c == '-'

/-- A key without dots. -/
def simpleKey? (text : List Char) : Option (String × List Char) :=
  match quotedLine? text with
  | some (key, rest) => some (String.ofList key, rest)
  | none =>
    let (key, rest) := text.span isKeyChar
    if key.isEmpty then none else some (String.ofList key, rest)

/-- A key with dots between its parts, and the blanks after it. -/
def key? (rounds text : List Char) : Option (List String × List Char) :=
  match rounds with
  | [] => none
  | _ :: rounds => do
    let (first, rest) ← simpleKey? (dropBlanks text)
    match dropBlanks rest with
    | '.' :: rest =>
      let (more, rest) ← key? rounds rest
      return (first :: more, rest)
    | rest => return ([first], rest)

/-! ### Tables -/

/-- Changes the table under a path. Tables on the way are made if they are missing; `none` when
something on the way is no table, or is a table with a header of its own that a dotted key would extend.
-/
def changeAt? (dotted : Bool) (change : Bool → Bool → Entries → Option Entry) :
    List String → Entries → Option Entries
  | [], entries =>
    match change false false entries with
    | some (.table _ _ entries) => some entries
    | _ => none
  | [key], entries =>
    match entries.get? key with
    | none => (change true dotted []).map (entries.put key)
    | some (.table implicit isDotted inner) =>
      if dotted && !implicit then none
      else (change implicit isDotted inner).map (entries.put key)
    | some (.tables last earlier) =>
      match change false false last with
      | some (.table _ _ last) => some (entries.put key (.tables last earlier))
      | _ => none
    | some (.value _) => none
  | key :: path, entries =>
    match entries.get? key with
    | none => (changeAt? dotted change path []).map fun inner => entries.put key (.table true dotted inner)
    | some (.table implicit isDotted inner) =>
      if dotted && !implicit then none
      else (changeAt? dotted change path inner).map fun inner =>
        entries.put key (.table implicit isDotted inner)
    | some (.tables last earlier) =>
      (changeAt? dotted change path last).map fun last => entries.put key (.tables last earlier)
    | some (.value _) => none

/-- Adds a key with its value to a table. Through dotted keys only a table made by dotted keys can be
reached. -/
def addKey? (key : List String) (value : Value) (entries : Entries) : Option Entries :=
  let path := key.dropLast
  let last := key.getLastD ""
  changeAt? true
    (fun implicit isDotted inner =>
      if isDotted == path.isEmpty then none
      else if (inner.get? last).isSome then none
      else some (.table implicit isDotted (inner.put last (.value value))))
    path entries

/-- Opens the table of a header. -/
def openTable? (key : List String) (entries : Entries) : Option Entries :=
  let last := key.getLastD ""
  changeAt? false
    (fun implicit isDotted inner =>
      match inner.get? last with
      | none => some (.table implicit isDotted (inner.put last (.table false false [])))
      | some (.table true false deeper) =>
        some (.table implicit isDotted (inner.put last (.table false false deeper)))
      | some _ => none)
    key.dropLast entries

/-- Opens a further table under a repeated header. -/
def openRepeated? (key : List String) (entries : Entries) : Option Entries :=
  let last := key.getLastD ""
  changeAt? false
    (fun implicit isDotted inner =>
      match inner.get? last with
      | none => some (.table implicit isDotted (inner.put last (.tables [] [])))
      | some (.tables newest earlier) =>
        some (.table implicit isDotted (inner.put last (.tables [] (newest :: earlier))))
      | some _ => none)
    key.dropLast entries

/-- Adds a key with its value to the table under the last header. -/
def addUnder? (header key : List String) (value : Value) (entries : Entries) : Option Entries :=
  changeAt? false
    (fun implicit isDotted inner =>
      (addKey? key value inner).map fun inner => .table implicit isDotted inner)
    header entries

/-! ### Values -/

/-- The number of lists and tables in braces that can be nested. -/
def nestingLimit : Nat := 80

/-- The members of a list after its opening bracket, up to its end; a comma may follow the last one. -/
def members? (value : List Char → Option (Value × List Char)) (rounds text : List Char) : Option (List Char) :=
  match rounds with
  | [] => none
  | _ :: rounds => do
    match ← afterGaps? text text with
    | ']' :: rest => return rest
    | text =>
      let (_, rest) ← value text
      match ← afterGaps? rest rest with
      | ',' :: rest => members? value rounds rest
      | ']' :: rest => return rest
      | _ => none

/-- The keys of a table in braces after its opening brace, up to its end; a comma may follow the last
one. -/
def fields? (value : List Char → Option (Value × List Char)) (rounds text : List Char) (entries : Entries) :
    Option (List Char) :=
  match rounds with
  | [] => none
  | _ :: rounds => do
    match ← afterGaps? text text with
    | '}' :: rest => return rest
    | text =>
      let (key, rest) ← key? text text
      match rest with
      | '=' :: rest =>
        let (v, rest) ← value (dropBlanks rest)
        let entries ← addKey? key v entries
        match ← afterGaps? rest rest with
        | ',' :: rest => fields? value rounds rest entries
        | '}' :: rest => return rest
        | _ => none
      | _ => none

/-- A value in which at most so many lists and tables are nested. -/
def value? (depth : Nat) (text : List Char) : Option (Value × List Char) :=
  match text with
  | '[' :: rest =>
    match depth with
    | 0 => none
    | depth + 1 => (members? (value? depth) text rest).map fun rest => (.compound, rest)
  | '{' :: rest =>
    match depth with
    | 0 => none
    | depth + 1 => (fields? (value? depth) text rest []).map fun rest => (.compound, rest)
  | '"' :: _ | '\'' :: _ => (quoted? text).map fun (t, rest) => (.text (String.ofList t), rest)
  | _ =>
    let (run, rest) := splitScalar text
    (scalar? run).map fun v => (v, rest)

/-! ### Documents -/

/-- A key with its value, up to the end of its line. -/
def assignment? (header : List String) (entries : Entries) (text : List Char) :
    Option (Entries × List Char) := do
  let (key, rest) ← key? text text
  match rest with
  | '=' :: rest =>
    let (value, rest) ← value? nestingLimit (dropBlanks rest)
    let entries ← addUnder? header key value entries
    let rest ← afterLine? rest
    return (entries, rest)
  | _ => none

/-- The header of a table after its opening bracket, up to the end of its line. -/
def header? (entries : Entries) (text : List Char) : Option (List String × Entries × List Char) := do
  let (key, rest) ← key? text text
  match rest with
  | ']' :: rest =>
    let entries ← openTable? key entries
    let rest ← afterLine? rest
    return (key, entries, rest)
  | _ => none

/-- The repeated header of a table after its opening brackets, up to the end of its line. -/
def repeatedHeader? (entries : Entries) (text : List Char) :
    Option (List String × Entries × List Char) := do
  let (key, rest) ← key? text text
  match rest with
  | ']' :: ']' :: rest =>
    let entries ← openRepeated? key entries
    let rest ← afterLine? rest
    return (key, entries, rest)
  | _ => none

/-- The lines of a document under the last header. -/
def lines? (rounds : List Char) (header : List String) (entries : Entries) (text : List Char) :
    Option Document :=
  match rounds with
  | [] => if text.isEmpty then some entries else none
  | _ :: rounds =>
    match dropBlanks text with
    | [] => some entries
    | '[' :: '[' :: rest =>
      match repeatedHeader? entries rest with
      | some (header, entries, rest) => lines? rounds header entries rest
      | none => none
    | '[' :: rest =>
      match header? entries rest with
      | some (header, entries, rest) => lines? rounds header entries rest
      | none => none
    | c :: rest =>
      if c == '#' || atLineEnd (c :: rest) then
        match afterLine? (c :: rest) with
        | some rest => lines? rounds header entries rest
        | none => none
      else
        match assignment? header entries (c :: rest) with
        | some (entries, rest) => lines? rounds header entries rest
        | none => none

/-- Reads a document; a byte order mark in front is passed over. -/
def Document.read? (text : String) : Option Document :=
  let text := match text.toList with
    | '\uFEFF' :: rest => rest
    | text => text
  lines? text [] [] text

end DefectGraph.Toml
