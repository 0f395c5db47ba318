import DefectGraph.Text.Space
import DefectGraph.Text.Alphanumeric

/-!
# Names and type spellings

Dotted names and the source spelling of types.

## Main Definitions

* `Name.join` - the non-empty parts of a name with a separator between them.
* `Name.lastSegment` - what follows the last dot.
* `Name.collapseSpaces` - one spelling for all layouts of a type.
* `Name.dropTypeArguments` - a type without its type arguments.

## Design Notes

Spellings of types are compared as texts, so each has to be brought into one layout first. White space is
kept only where it divides two words, which would be one word without it, and a blank follows every comma.
-/

namespace DefectGraph.Name

open DefectGraph.Text

/-- The non-empty parts, with `sep` between neighbours. -/
def join (parts : List String) (sep : Char) : String :=
  String.intercalate (String.singleton sep) (parts.filter fun part => !part.isEmpty)

/-- The characters after the last dot, all of them when there is none. -/
def lastSegmentChars (name : List Char) : List Char :=
  (name.reverse.takeWhile fun c => c != '.').reverse

/-- The part of a dotted name after its last dot. -/
def lastSegment (name : String) : String :=
  String.ofList (lastSegmentChars name.toList)

/-! ### Collapsing white space -/

/-- A space after this character can separate two words. -/
def endsWord (c : Char) : Bool :=
  isAlphanumeric c || c == '_' || c == '?'

/-- A space before this character can separate two words. -/
def startsWord (c : Char) : Bool :=
  isAlphanumeric c || c == '_' || c == '@'

/-- Collapses the rest of a spelling, given the last character written so far and whether white space
has been passed since. White space survives as one blank between two words; a comma that is not the
first character is followed by one blank. -/
def collapseFrom (last : Option Char) (pending : Bool) : List Char → List Char
  | [] => []
  | c :: rest =>
    if isSpace c then collapseFrom last true rest
    else if c == ',' && last.isSome then ',' :: ' ' :: collapseFrom (some ' ') false rest
    else if pending && last.any endsWord && startsWord c then
      ' ' :: c :: collapseFrom (some c) false rest
    else c :: collapseFrom (some c) false rest

/-- Runs of white space become one blank between two words and vanish elsewhere; a comma is followed
by one blank. -/
def collapseSpaces (text : String) : String :=
  String.ofList (collapseFrom none false text.toList)

/-! ### Dropping type arguments -/

/-- Drops what stands between angle brackets, `depth` of which are open, and all white space. -/
def dropTypeArgumentsFrom (depth : Nat) : List Char → List Char
  | [] => []
  | c :: rest =>
    if c == '<' then dropTypeArgumentsFrom (depth + 1) rest
    else if c == '>' then dropTypeArgumentsFrom (depth - 1) rest
    else if depth == 0 && !isSpace c then c :: dropTypeArgumentsFrom depth rest
    else dropTypeArgumentsFrom depth rest

/-- A type spelling without type arguments, nested ones included, and without white space. -/
def dropTypeArguments (text : String) : String :=
  String.ofList (dropTypeArgumentsFrom 0 text.toList)

end DefectGraph.Name
