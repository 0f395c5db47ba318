import DefectGraph.Java.Lexer
import DefectGraph.Java.Grammar.Statements

/-!
# Reading a source file

`CompilationUnit.ofSource?` reads the package and type declarations of a source text, or fails when the
text is no Java.

## Main Definitions

* `Grammar.Rules.ofDepth` - the rules, cut off at a depth.
* `Grammar.compilationUnit` - a whole file.
* `CompilationUnit.ofSource?` - the declarations of a source text.

## Design Notes

The depth is not a limit on programs: it is taken from the number of tokens, and a greater one reads the
same.
-/

namespace DefectGraph.Java

namespace Grammar

open DefectGraph.Java.Parser

/-- The rules one level up. -/
def Rules.step (r : Rules) : Rules where
  type := Grammar.type r
  annotationMark := Grammar.annotationMark r
  elementValue := Grammar.elementValue r
  expression := Grammar.expression r
  initializer := Grammar.initializer r
  recordPattern := Grammar.recordPattern r
  block := Grammar.block r
  statement := Grammar.statement r
  body := Grammar.body r

/-- The rules that read what is nested at most so deep. -/
def Rules.ofDepth : Nat → Rules
  | 0 => Rules.none
  | n + 1 => (Rules.ofDepth n).step

/-- A method at the top of a file. -/
def topMethod (r : Rules) (start : Nat) (front : List Code) : Parser Unit := do
  let (params, _) ← optionalTypeParameters r
  let _ ← annotations r
  let _ ← type r
  require (isNameBefore "(")
  let _ ← methodRest r start params front

/-- What follows the modifiers of something at the top of a file: a package, a type, or other code. -/
def topDeclaration (r : Rules) (start : Nat) (front : List Code) : Parser (Option TopLevel) := do
  if (← looking startsTypeDeclaration) then
    let d ← typeDeclaration r front
    return some (.type d.name d.typeParams d.header d.members)
  else if (← atWord "package") then
    return some (.package (← packageDirective).2)
  else
    (do
      topMethod r start front
      return none)
    <|> (do
      let _ ← localDeclaration r front
      return none)

/-- Something at the top of a file. -/
def topLevel (r : Rules) : Parser (Option TopLevel) := do
  let start ← offset
  (do topDeclaration r start (← modifiers r))
    <|> (do
      let _ ← statement r
      return none)

/-- A whole file. -/
def compilationUnit (r : Rules) : Parser CompilationUnit := do
  let all ← many (topLevel r)
  require List.isEmpty
  return all.filterMap id

end Grammar

/-- The package and type declarations of a source text. Two levels of the grammar's rules for each token
are enough. -/
def CompilationUnit.ofSource? (source : String) : Option CompilationUnit := do
  let ts ← tokens? source
  let (unit, _) ← Grammar.compilationUnit (.ofDepth (2 * ts.length + 1)) ⟨ts, 0⟩
  return unit

end DefectGraph.Java
