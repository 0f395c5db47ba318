import DefectGraph.Java.IdentifierChar

/-!
# Words

A word is an identifier or a keyword. It carries the proof that it is spelled like one, so that names
taken from a source are never empty and never hold a separator.

## Main Definitions

* `spellsWord` - a text is spelled like a word.
* `Word` - such a text.
-/

namespace DefectGraph.Java

/-- The characters spell a word: the first can start an identifier, the others can stand inside one. -/
def spellsWord : List Char → Bool
  | [] => false
  | c :: rest => isIdentifierStart c && rest.all isIdentifierPart

/-- An identifier or a keyword. -/
structure Word where
  text : String
  spelled : spellsWord text.toList = true
  deriving DecidableEq, Repr

instance : Coe Word String := ⟨Word.text⟩

end DefectGraph.Java
