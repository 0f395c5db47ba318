/-!
# Searching text

## Main Definitions

* `afterStart?` - what follows a given start of a text.
* `splitAt?` - the parts before and after the first separator.
* `occursIn` - a text holds another one.
-/

namespace DefectGraph.Text

/-- What follows a given start of a text. -/
def afterStart? : List Char → List Char → Option (List Char)
  | [], text => some text
  | p :: ps, c :: cs => if p = c then afterStart? ps cs else none
  | _ :: _, [] => none

/-- What stands before and after the first occurrence of a character. -/
def splitAt? (separator : Char) : List Char → Option (List Char × List Char)
  | [] => none
  | c :: cs =>
    if c = separator then some ([], cs)
    else (splitAt? separator cs).map fun (before, after) => (c :: before, after)

/-- A text occurs in another one. -/
def occursIn (part : List Char) : List Char → Bool
  | [] => part.isEmpty
  | c :: cs => part.isPrefixOf (c :: cs) || occursIn part cs

end DefectGraph.Text
