import DefectGraph.Java.Code
import DefectGraph.Java.Parser

/-!
# The recursive rules of the grammar

The rules of the grammar call one another. Each module of the grammar defines its rules in terms of
`Rules`, the rules for what is nested deeper.

## Main Definitions

* `Rules` - the rules for what is nested deeper.
* `TypeUse` - a type as it is used in the source.
* `between`, `parens`, `braces`, `bracedList` - what stands in brackets.

## Design Notes

A rule goes deeper behind a token, apart from three: the value of an annotation's element, the initial value
of a variable and a statement can be an expression or a block, which stand at the same place one level down.
These two take a token before they go deeper again. So a program of `n` tokens is never nested more than
`2 * n` levels deep.
-/

namespace DefectGraph.Java.Grammar

open DefectGraph.Java

/-- A type as it is used in the source. -/
structure TypeUse where
  /-- The type's name without type arguments. -/
  name : String
  /-- Its array dimensions. -/
  dims : Nat
  /-- Its source text. -/
  text : String
  /-- The code inside it: annotations and lower bounds. -/
  parts : List Code
  /-- A name that could be read as an expression too. -/
  plain : Bool

/-- The kinds of type bodies. -/
inductive BodyKind where
  /-- The body of a class or a record. -/
  | classBody
  | enumBody
  | interfaceBody
  | annotationBody
  deriving DecidableEq

/-- The rules for what is nested one level deeper. -/
structure Rules where
  /-- A type without annotations in front of it. -/
  type : Parser TypeUse
  annotationMark : Parser Code
  /-- The value of an annotation's element. -/
  elementValue : Parser Code
  /-- An expression whose operators bind at least as tightly as the number says; the flag allows it to
  be a lambda, which the labels of a switch do not. -/
  expression : Nat → Bool → Parser Code
  /-- The initial value of a variable: an expression or an array initializer. -/
  initializer : Parser Code
  /-- A pattern that takes a record apart. -/
  recordPattern : Parser Code
  /-- The statements of a block in braces. -/
  block : Parser (List Code)
  statement : Parser Code
  /-- The members of a type body in braces. -/
  body : BodyKind → Parser (List Code)

/-- The rules at depth zero, which read nothing. -/
def Rules.none : Rules where
  type := failure
  annotationMark := failure
  elementValue := failure
  expression := fun _ _ => failure
  initializer := failure
  recordPattern := failure
  block := failure
  statement := failure
  body := fun _ => failure

/-! ### Words and brackets -/

/-- The words that never are identifiers. -/
def hardKeywords : List String :=
  ["abstract", "assert", "boolean", "break", "byte", "case", "catch", "char", "class", "continue",
   "default", "do", "double", "else", "enum", "extends", "final", "finally", "float", "for", "if",
   "implements", "import", "instanceof", "int", "interface", "long", "native", "new", "package",
   "private", "protected", "public", "return", "short", "static", "strictfp", "super", "switch",
   "synchronized", "this", "throw", "throws", "transient", "try", "void", "volatile", "while", "true",
   "false", "null"]

/-- The names of the primitive types. -/
def primitiveTypes : List String :=
  ["byte", "short", "int", "long", "char", "float", "double", "boolean", "void"]

/-- The words with a meaning of their own after a dot. -/
def memberKeywords : List String :=
  ["class", "this", "super", "new"]

/-- Any word. -/
def anyWord : Parser Word := Parser.wordExcept []

/-- A word that is not a keyword. -/
def identifier : Parser Word := Parser.wordExcept hardKeywords

/-- A word that names a member after a dot. -/
def memberName : Parser Word := Parser.wordExcept memberKeywords

/-- The token is a word that is not a keyword. -/
def isIdentifier (t : Token) : Bool :=
  t.kind == .word && !hardKeywords.contains t.text

/-- The text of an opening brace. -/
def openBrace : String := "\x7b"

/-- The text of a closing brace. -/
def closeBrace : String := "\x7d"

/-- Reads something between two symbols. -/
def between {α : Type} (opening closing : String) (p : Parser α) : Parser α := do
  let _ ← Parser.symbol opening
  let a ← p
  let _ ← Parser.symbol closing
  return a

/-- Reads something in parentheses. -/
def parens {α : Type} (p : Parser α) : Parser α := between "(" ")" p

/-- Reads something in braces. -/
def braces {α : Type} (p : Parser α) : Parser α := between openBrace closeBrace p

/-- Reads something in braces whose members a comma separates; a comma may follow the last one. -/
def bracedList {α : Type} (p : Parser α) : Parser (List α) := braces do
  let members ← Parser.separated "," p
  let _ ← Parser.maybe (Parser.symbol ",")
  return members

/-- The tokens start with the given symbols. -/
def startsWith : List String → List Token → Bool
  | [], _ => true
  | s :: ss, t :: ts => t.isSymbol s && startsWith ss ts
  | _ :: _, [] => false

/-- Code that only binds or repeats a name counts as none. -/
def withoutName : Code → List Code
  | .name _ => []
  | code => [code]

end DefectGraph.Java.Grammar
