/-!
# Paths

Paths are kept as they are written, because messages show them that way.

## Main Definitions

* `Path.join` - a path below a directory.
* `Path.parent?` - the path without its last part.
* `Path.extension?` - what follows the last dot of a file's name.

## Design Notes

A path is a text, and its parts are computed when they are needed. Slashes and single dots at the end of a
path are no parts of it. Two dots stand for themselves here, since where they lead depends on the files.
-/

namespace DefectGraph

/-- A path as it is written. -/
abbrev Path : Type := String

namespace Path

/-- The path starts at the root of all files. -/
def isAbsolute (p : Path) : Bool := p.toList.head? == some '/'

/-- The path holds a zero byte, which no file's name does. -/
def hasZero (p : Path) : Bool := p.toList.contains '\x00'

/-- A path below a directory; an absolute path stands for itself. -/
def join (dir rel : Path) : Path :=
  if rel.isAbsolute then rel
  else if dir.isEmpty || dir.toList.getLast? == some '/' then dir ++ rel
  else dir ++ "/" ++ rel

/-- Splits a text at every slash. -/
def splitSlashes : List Char → List (List Char)
  | [] => [[]]
  | c :: rest =>
    if c == '/' then [] :: splitSlashes rest
    else
      match splitSlashes rest with
      | [] => [[c]]
      | part :: parts => (c :: part) :: parts

/-- The parts of a path between its slashes, empty ones included. -/
def parts (p : Path) : List String :=
  (splitSlashes p.toList).map String.ofList

/-- Drops the slashes at the end of reversed characters, and the single dots between slashes; a dot that
is all there is stays, and so does a root. -/
def trimReversed : List Char → List Char
  | '/' :: c :: rest => trimReversed (c :: rest)
  | '.' :: '/' :: c :: rest => trimReversed (c :: rest)
  | ['.', '/'] => ['/']
  | cs => cs

/-- The path without its last part, if it has one. Slashes and single dots at the end are no parts. -/
def parent? (p : Path) : Option Path :=
  let trimmed := trimReversed p.toList.reverse
  if trimmed.isEmpty || trimmed == ['/'] then none
  else some (String.ofList (trimReversed (trimmed.dropWhile fun c => c != '/')).reverse)

/-- The last part of a path, unless it is a single or a double dot. -/
def fileName? (p : Path) : Option String :=
  let trimmed := trimReversed p.toList.reverse
  let name := (trimmed.takeWhile fun c => c != '/').reverse
  if name.isEmpty || name == ['.'] || name == ['.', '.'] then none else some (String.ofList name)

/-- What follows the last dot of the file's name; a name that only starts with a dot has no
extension. -/
def extension? (p : Path) : Option String :=
  p.fileName?.bind fun name =>
    let reversed := name.toList.reverse
    let (ending, rest) := reversed.span fun c => c != '.'
    match rest with
    | [] | ['.'] => none
    | _ => some (String.ofList ending.reverse)

end Path

end DefectGraph
