import DefectGraph.Java.Grammar.Declarations

/-!
# Statements

## Main Definitions

* `importDirective`, `packageDirective`, `moduleRest` - what stands at the top of a file beside types.
* `keywordRest?` - the statements that start with a keyword, by that keyword.
* `localDeclaration` - variables and types inside a block.
* `statement`, `block` - statements, and statements in braces.

## Design Notes

A statement becomes one piece of code. An empty statement becomes a `Code.semicolon`, and no other statement
does, because the code of a constructor has to tell whether anything follows an explicit constructor call.
-/

namespace DefectGraph.Java.Grammar

open DefectGraph.Java DefectGraph.Java.Parser

/-! ### Directives of files and modules -/

/-- A dotted name as code. -/
def nameCode : Parser (List Code) := do
  return (← dottedName).map fun name => .name name.text

/-- An import. -/
def importDirective : Parser Code := do
  let _ ← keyword "import"
  let _ ← maybe (keyword "static")
  let name ← nameCode
  let _ ← maybe do
    let _ ← symbol "."
    symbol "*"
  let _ ← symbol ";"
  return .group name

/-- The name of a package in a package declaration, as code and as text without white space. -/
def packageDirective : Parser (List Code × String) := do
  let _ ← keyword "package"
  let (name, text) ← spelled nameCode
  let _ ← symbol ";"
  return (name, String.ofList (text.toList.filter fun c => !Text.isSpace c))

/-- The words that start a directive of a module. -/
def moduleDirectiveWords : List String :=
  ["requires", "exports", "opens", "uses", "provides"]

/-- The names after a keyword of a module's directive. -/
def namesAfter (word : String) : Parser (List Code) := do
  let _ ← keyword word
  return (← separated1 "," nameCode).flatten

/-- A directive of a module. -/
def moduleDirective : Parser (List Code) := do
  let word ← anyKeyword moduleDirectiveWords
  if word.text == "requires" then
    let _ ← many do
      require fun ts => (ts.drop 1).head?.any fun t => t.kind == .word
      anyKeyword ["transitive", "static"]
  let name ← nameCode
  let others ← optionalList (namesAfter "to" <|> namesAfter "with")
  let _ ← symbol ";"
  return name ++ others

/-- The tokens start a module, after its annotations. -/
def startsModule (ts : List Token) : Bool :=
  match ts with
  | t :: u :: v :: _ =>
    (t.isWord "module" && u.kind == .word) ||
      (t.isWord "open" && u.isWord "module" && v.kind == .word)
  | _ => false

/-- A module after its annotations. -/
def moduleRest : Parser (List Code) := do
  require startsModule
  let _ ← maybe (keyword "open")
  let _ ← keyword "module"
  let name ← nameCode
  let directives ← braces (many moduleDirective)
  return name ++ directives.flatten

/-! ### Statements by their first word -/

/-- The rest of a statement up to its semicolon: nothing, or an expression. -/
def optionalExpression (r : Rules) : Parser (List Code) := do
  let values ← optionalList (do return [← r.expression 0 true])
  let _ ← symbol ";"
  return values

/-- The rest of a jump up to its semicolon: nothing, or a label. -/
def optionalLabel : Parser (List Code) := do
  let label ← optionalList (do return [Code.name (← identifier)])
  let _ ← symbol ";"
  return label

/-- A statement that stands inside another one. -/
def nested (r : Rules) : Parser (List Code) := do
  return [← r.statement]

/-- An `if` after its keyword. -/
def ifRest (r : Rules) : Parser (List Code) := do
  let condition ← parenthesized r
  let consequence ← nested r
  if (← atWord "else") then
    skip 1
    return condition :: consequence ++ (← nested r)
  else return condition :: consequence

/-- A `while` after its keyword. -/
def whileRest (r : Rules) : Parser (List Code) := do
  let condition ← parenthesized r
  return condition :: (← nested r)

/-- A `do` after its keyword. -/
def doRest (r : Rules) : Parser (List Code) := do
  let inside ← nested r
  let _ ← keyword "while"
  let condition ← parenthesized r
  let _ ← symbol ";"
  return inside ++ [condition]

/-- Local variables after their modifiers, whose code is `front`. -/
def localVariables (r : Rules) (front : List Code) : Parser (List Code) := do
  let use ← type r
  require fun ts => ["=", ";", ",", "[", "@"].any fun s => isNameBefore s ts
  return front ++ use.parts ++ (← declarators r)

/-- The head of a loop over the members of a collection, up to the colon. -/
def eachHead (r : Rules) : Parser (List Code) := do
  let front ← modifiers r
  let use ← type r
  let (name, marks, _) ← variableName r
  let _ ← symbol ":"
  return front ++ use.parts ++ boundName name ++ marks

/-- The start of a counting loop, up to its first semicolon. -/
def forStart (r : Rules) : Parser (List Code) :=
  (do localVariables r (← modifiers r))
  <|> (do
    let values ← separated "," (r.expression 0 true)
    let _ ← symbol ";"
    return values)

/-- A `for` after its keyword. -/
def forRest (r : Rules) : Parser (List Code) := do
  let _ ← symbol "("
  match ← maybe (eachHead r) with
  | some front =>
    let value ← r.expression 0 true
    let _ ← symbol ")"
    return front ++ value :: (← nested r)
  | none =>
    let start ← forStart r
    let condition ← optionalExpression r
    let update ← separated "," (r.expression 0 true)
    let _ ← symbol ")"
    return start ++ condition ++ update ++ (← nested r)

/-- An `assert` after its keyword. -/
def assertRest (r : Rules) : Parser (List Code) := do
  let condition ← r.expression 0 true
  let message ← optionalList do
    let _ ← symbol ":"
    return [← r.expression 0 true]
  let _ ← symbol ";"
  return condition :: message

/-- A `synchronized` statement after its keyword. -/
def synchronizedRest (r : Rules) : Parser (List Code) := do
  let lock ← parenthesized r
  return lock :: (← r.block)

/-! ### Exceptions -/

/-- A `catch` clause. -/
def catchClause (r : Rules) : Parser (List Code) := do
  let _ ← keyword "catch"
  let caught ← parens do
    let front ← modifiers r
    let uses ← separated1 "|" (type r)
    let (name, marks, _) ← variableName r
    return front ++ uses.flatMap TypeUse.parts ++ boundName name ++ marks
  return caught ++ (← r.block)

/-- A `finally` clause. -/
def finallyClause (r : Rules) : Parser (List Code) := do
  let _ ← keyword "finally"
  r.block

/-- A resource of a `try`: a variable with its value, or an expression. -/
def resource (r : Rules) : Parser (List Code) :=
  (do
    let front ← modifiers r
    let use ← type r
    let (name, marks, _) ← variableName r
    let _ ← symbol "="
    return front ++ use.parts ++ boundName name ++ marks ++ [← r.expression 0 true])
  <|> (do return [(← primary r).1])

/-- The resources of a `try`. -/
def resources (r : Rules) : Parser (List Code) := parens do
  let all ← separated1 ";" (resource r)
  let _ ← maybe (symbol ";")
  return all.flatten

/-- A `try` after its keyword; without resources it has a clause. -/
def tryRest (r : Rules) : Parser (List Code) := do
  let held ← maybe (resources r)
  let inside ← r.block
  let caught ← many (catchClause r)
  let last ← maybe (finallyClause r)
  if held.isNone && caught.isEmpty && last.isNone then failure
  else return held.getD [] ++ inside ++ caught.flatten ++ last.getD []

/-! ### Statements -/

/-- A statement that starts with a keyword of its own, after that keyword. -/
def keywordRest? (r : Rules) (word : String) : Option (Parser (List Code)) :=
  match word with
  | "if" => some (ifRest r)
  | "while" => some (whileRest r)
  | "do" => some (doRest r)
  | "for" => some (forRest r)
  | "try" => some (tryRest r)
  | "return" => some (optionalExpression r)
  | "throw" => some (do return [← expressionStatement r])
  | "break" => some optionalLabel
  | "continue" => some optionalLabel
  | "assert" => some (assertRest r)
  | _ => none

/-- A declaration after its modifiers, whose code is `front`. -/
def localDeclaration (r : Rules) (front : List Code) : Parser Code := do
  if (← looking startsTypeDeclaration) then
    return (← typeDeclaration r front).toCode
  else if (← atWord "package") then
    return .group (front ++ (← packageDirective).1)
  else if (← looking startsModule) then
    return .group (front ++ (← moduleRest))
  else
    return .group (← localVariables r front)

/-- A label and its statement. -/
def labelled (r : Rules) : Parser Code := do
  let label ← identifier
  let _ ← symbol ":"
  return .group (.name label :: (← nested r))

/-- A `yield` statement. -/
def yieldStatement (r : Rules) : Parser Code := do
  let _ ← keyword "yield"
  return .group [← expressionStatement r]

/-- The tokens start with a modifier or an annotation. -/
def startsModified (ts : List Token) : Bool :=
  match ts with
  | t :: next =>
    if t.isSymbol "@" then true
    else if t.isWord "synchronized" then !startsWith ["("] next
    else if t.isWord "sealed" then next.head?.any fun u => u.kind == .word || u.isSymbol "@"
    else if t.isWord "non" then
      match next with
      | u :: v :: _ => u.isSymbol "-" && u.adjacent && v.isWord "sealed" && v.adjacent
      | _ => false
    else t.kind == .word && modifierWords.contains t.text
  | [] => false

/-- A statement that no keyword starts. -/
def plainStatement (r : Rules) : Parser Code := do
  if (← looking startsModified) then
    localDeclaration r (← modifiers r)
      <|> expressionStatement r
  else if (← looking fun ts => ts.head?.any isIdentifier && isNameBefore ":" ts) then
    labelled r
  else
    yieldStatement r
      <|> localDeclaration r []
      <|> expressionStatement r

/-- A statement. -/
def statement (r : Rules) : Parser Code := do
  match (← get).rest with
  | [] => failure
  | t :: next =>
    if t.isSymbol ";" then
      skip 1
      return .semicolon
    else if t.isSymbol openBrace then
      return .group (← r.block)
    else if t.isWord "switch" then switchExpression r
    else if t.isWord "import" then importDirective
    else if t.isWord "synchronized" && startsWith ["("] next then
      skip 1
      return .group (← synchronizedRest r)
    else if t.kind == .word then
      match keywordRest? r t.text with
      | some rest =>
        skip 1
        return .group (← rest)
      | none => plainStatement r
    else plainStatement r

/-- The statements of a block in braces. -/
def block (r : Rules) : Parser (List Code) := braces (many r.statement)

end DefectGraph.Java.Grammar
