import DefectGraph.Java.Grammar.Types

/-!
# Expressions

Operators by precedence around operands; casts, lambdas and switches; and primary expressions with the
accesses and calls that follow them.

## Main Definitions

* `operators`, `operatorAt?` - the operators with their precedence.
* `primary` - a primary expression, and whether it can be assigned to.
* `creation`, `arrayCreation`, `methodReference`, `lambdaExpression`, `castExpression`, `switchExpression` -
  the other forms.
* `expression` - operators of at least some precedence around operands.

## Design Notes

Of an expression only what can lead to a declaration is kept: names, calls, creations, method references and
inline class bodies, grouped as they are nested. Operators leave no trace in the code, so an operation is a
group of its operands. Where two forms start alike, such as casts and parentheses, lambdas and parameters,
or types and comparisons, a rule looks at the tokens ahead or tries one form and goes back to the other.
-/

namespace DefectGraph.Java.Grammar

open DefectGraph.Java DefectGraph.Java.Parser

/-! ### Operators -/

/-- An operator of two operands: how tightly it binds, how many tokens spell it, and whether it assigns
to its left operand. -/
structure Operator where
  precedence : Nat
  width : Nat
  assigns : Bool

/-- The operators that one token spells. -/
def operators : List (String × Operator) :=
  [("||", ⟨4, 1, false⟩), ("&&", ⟨5, 1, false⟩), ("|", ⟨6, 1, false⟩), ("^", ⟨7, 1, false⟩),
   ("&", ⟨8, 1, false⟩), ("==", ⟨9, 1, false⟩), ("!=", ⟨9, 1, false⟩), ("<", ⟨10, 1, false⟩),
   ("<=", ⟨10, 1, false⟩), ("<<", ⟨11, 1, false⟩), ("+", ⟨12, 1, false⟩), ("-", ⟨12, 1, false⟩),
   ("*", ⟨13, 1, false⟩), ("/", ⟨13, 1, false⟩), ("%", ⟨13, 1, false⟩),
   ("=", ⟨1, 1, true⟩), ("+=", ⟨1, 1, true⟩), ("-=", ⟨1, 1, true⟩), ("*=", ⟨1, 1, true⟩),
   ("/=", ⟨1, 1, true⟩), ("&=", ⟨1, 1, true⟩), ("|=", ⟨1, 1, true⟩), ("^=", ⟨1, 1, true⟩),
   ("%=", ⟨1, 1, true⟩), ("<<=", ⟨1, 1, true⟩)]

/-- The operators that start with a closing angle bracket, the longest first. -/
def angleOperators : List (String × Operator) :=
  [(">>>=", ⟨1, 4, true⟩), (">>=", ⟨1, 3, true⟩), (">>>", ⟨11, 3, false⟩), (">>", ⟨11, 2, false⟩),
   (">=", ⟨10, 2, false⟩), (">", ⟨10, 1, false⟩)]

/-- The precedence of a type test. -/
def relationalPrecedence : Nat := 10

/-- The precedence of a conditional expression. -/
def conditionalPrecedence : Nat := 3

/-- The precedence of a cast. -/
def castPrecedence : Nat := 14

/-- The precedence of an operator in front of its operand. -/
def unaryPrecedence : Nat := 15

/-- The spelling of the angle brackets and equals signs that stand together. -/
def angleRun : List Token → String
  | [] => ""
  | t :: rest =>
    let more := rest.takeWhile fun u => u.adjacent && (u.isSymbol ">" || u.isSymbol "=")
    t.text ++ String.join (more.map Token.text)

/-- The operator at the front of the tokens. -/
def operatorAt? (ts : List Token) : Option Operator :=
  match ts with
  | [] => none
  | t :: _ =>
    if t.isSymbol ">" then
      let run := (angleRun ts).toList
      (angleOperators.find? fun entry => entry.1.toList.isPrefixOf run).map Prod.snd
    else if t.kind == .symbol then
      operators.lookup t.text
    else none

/-- Passes over tokens. -/
def skip : Nat → Parser Unit
  | 0 => pure ()
  | n + 1 => do
    let _ ← satisfy fun _ => true
    skip n

/-- The code that a bound variable's name counts as; the name `_` binds nothing. -/
def boundName (name : String) : List Code :=
  if name == "_" then [] else [.name name]

/-- Arguments in parentheses. -/
def arguments (r : Rules) : Parser (List Code) :=
  parens (separated "," (r.expression 0 true))

/-- An expression in parentheses. -/
def parenthesized (r : Rules) : Parser Code := do
  return .group [← parens (r.expression 0 true)]

/-! ### Patterns -/

/-- A member of a record pattern: a record pattern, a typed name, or `_`. -/
def recordComponent (r : Rules) : Parser Code :=
  r.recordPattern
    <|> (do
      let use ← type r
      let name ← identifier
      return .group (use.parts ++ [.name name]))
    <|> (do let _ ← keyword "_"; return .group [])

/-- A pattern that takes a record apart. -/
def recordPattern (r : Rules) : Parser Code := do
  let head ←
    (do
      let name ← identifier
      require fun ts => startsWith ["("] ts
      return [Code.name name])
    <|> (do
      let use ← simpleType r
      if use.plain then failure else return use.parts)
  let components ← parens (separated "," (recordComponent r))
  return .group (head ++ components)

/-- What a type test tests for. -/
def testedType (r : Rules) : Parser (List Code) := do
  let _ ← maybe (keyword "final")
  (do return [← recordPattern r]) <|> (do
    let use ← annotatedType r (type r)
    match ← maybe identifier with
    | some name => return use.parts ++ [.name name]
    | none => return use.parts)

/-! ### Literals, creations and primary expressions -/

/-- A string literal with its embedded expressions. -/
def textLiteral (r : Rules) : Parser Code := do
  let t ← satisfy fun t => t.kind == .text || t.kind == .textOpen
  if t.kind == .text then return .text []
  else
    let first ← r.expression 0 true
    let more ← many do
      let _ ← satisfy fun t => t.kind == .textMiddle
      r.expression 0 true
    let _ ← satisfy fun t => t.kind == .textClose
    return .text (first :: more)

/-- The initial value of a variable. -/
def initializer (r : Rules) : Parser Code :=
  (Code.group <$> bracedList r.initializer) <|> r.expression 0 true

/-- An array dimension with its length. -/
def lengthDimension (r : Rules) : Parser (List Code) := do
  let marks ← annotations r
  let length ← between "[" "]" (r.expression 0 true)
  return marks ++ [length]

/-- What follows the element type of a new array: lengths, or brackets and an initializer. -/
def arrayCreation (r : Rules) : Parser (List Code) :=
  (do
    let lengths ← many1 (lengthDimension r)
    let (marks, _) ← optionalDimensions r
    return lengths.flatten ++ marks)
  <|> (do
    let (marks, _) ← dimensions r
    let values ← bracedList r.initializer
    return marks ++ [.group values])

/-- An inline class body, if there is one. -/
def optionalInlineBody (r : Rules) : Parser (List Code) := do
  if (← atSymbol openBrace) then
    return [.inlineBody (← r.body .classBody)]
  else return []

/-- A construction of an object or an array; `outer` is the object around the new one. -/
def creation (r : Rules) (outer : List Code) : Parser Code := do
  let _ ← keyword "new"
  let before ← annotations r
  let args ← optionalList (typeArguments r)
  let after ← annotations r
  let use ← simpleType r
  let front := outer ++ before ++ args ++ after ++ use.parts
  if (← atSymbol "(") then
    let values ← arguments r
    let body ← optionalInlineBody r
    return .creation (Name.lastSegment use.name) (front ++ values ++ body)
  else
    let rest ← arrayCreation r
    return .group (front ++ rest)

/-- What follows the target of a method reference. -/
def methodReference (r : Rules) (target : Code) : Parser Code := do
  let _ ← symbol "::"
  let args ← optionalList (typeArguments r)
  let name ← anyWord
  return .methodRef target (if name == "new" then none else some name) args

/-- An expression that starts with a type: a class literal, or a method reference of a type that no
expression spells. -/
def typeExpression (r : Rules) : Parser Code := do
  let use ← type r
  (do
    let _ ← symbol "."
    let _ ← keyword "class"
    return .group use.parts)
  <|> (if use.plain then failure else methodReference r (.group use.parts))

/-- A primary expression, and whether it can be assigned to. -/
abbrev Primary : Type := Code × Bool

/-- A call or a field of an object; `between` stands between the object and the name. -/
def access (r : Rules) (object : Code) (between : List Code) : Parser Primary := do
  let name ← memberName
  if (← atSymbol "(") then
    return (.callOn object name between (← arguments r), false)
  else
    return (.field (object :: between), true)

/-- A call of an object with type arguments. -/
def genericCall (r : Rules) (object : Code) (between : List Code) : Parser Primary := do
  let args ← typeArguments r
  let name ← memberName
  return (.callOn object name (between ++ args) (← arguments r), false)

/-- What follows `super` after a dot: a call or a field of the superclass part, or a method reference.
-/
def superAccess (r : Rules) (object : Code) : Parser Primary :=
  (do return (← methodReference r (.group []), false))
  <|> (do
    let _ ← symbol "."
    genericCall r object [.superRef] <|> access r object [.superRef])

/-- One step that extends a primary expression. -/
def postfixStep (r : Rules) (primary : Primary) : Parser Primary := do
  let (object, _) := primary
  match (← get).rest with
  | t :: next =>
    if t.isSymbol "." then
      skip 1
      match next with
      | u :: _ =>
        if u.isWord "new" then return (← creation r [object], false)
        else if u.isWord "super" then
          skip 1
          superAccess r object
        else if u.isWord "this" then
          skip 1
          return (.field [object], true)
        else if u.isSymbol "<" then genericCall r object []
        else if u.kind == .text || u.kind == .textOpen then
          return (.group [object, ← textLiteral r], false)
        else access r object []
      | [] => failure
    else if t.isSymbol "[" then
      let index ← between "[" "]" (r.expression 0 true)
      return (.group [object, index], true)
    else if t.isSymbol "::" then
      return (← methodReference r object, false)
    else failure
  | [] => failure

/-- The start of a primary expression that is a word. -/
def primaryWord (r : Rules) (word : String) : Parser Primary := do
  if word == "this" then
    skip 1
    return (.thisRef, false)
  else if word == "super" then
    skip 1
    require fun ts => startsWith ["."] ts || startsWith ["::"] ts
    return (.superRef, false)
  else if word == "new" then
    return (← creation r [], false)
  else if word == "true" || word == "false" || word == "null" then
    skip 1
    return (.group [], false)
  else
    match ← maybe (typeExpression r) with
    | some code => return (code, false)
    | none =>
      let name ← identifier
      if (← atSymbol "(") then
        return (.call name (← arguments r), false)
      else
        return (.name name, true)

/-- The start of a primary expression. -/
def primaryStart (r : Rules) : Parser Primary := do
  match (← get).rest with
  | t :: _ =>
    match t.kind with
    | .number | .character =>
      skip 1
      return (.group [], false)
    | .text | .textOpen => return (← textLiteral r, false)
    | .word => primaryWord r t.text
    | _ => return (← parenthesized r, false)
  | [] => failure

/-- A primary expression with all accesses and calls that follow. -/
def primary (r : Rules) : Parser Primary := do
  extend (postfixStep r) (← primaryStart r)

/-- A primary expression, or an assignment to it, or a step of it. -/
def primaryExpression (r : Rules) (lambda : Bool) : Parser Code := do
  let (code, assignable) ← primary r
  match operatorAt? (← get).rest with
  | some op =>
    if op.assigns && assignable then
      skip op.width
      return .group [code, ← r.expression 0 lambda]
    else return code
  | none =>
    match ← maybe (symbol "++" <|> symbol "--") with
    | some _ => return .group [code]
    | none => return code

/-! ### Lambdas and casts -/

/-- The tokens after the parenthesis that closes the first one, `depth` of which are open. -/
def afterParens (depth : Nat) : List Token → List Token
  | [] => []
  | t :: ts =>
    if t.isSymbol "(" then afterParens (depth + 1) ts
    else if t.isSymbol ")" then
      if depth ≤ 1 then ts else afterParens (depth - 1) ts
    else afterParens depth ts

/-- The tokens start a lambda: a name or a list in parentheses, and an arrow. -/
def startsLambda (ts : List Token) : Bool :=
  match ts with
  | t :: next =>
    if t.isSymbol "(" then startsWith ["->"] (afterParens 0 ts)
    else isIdentifier t && startsWith ["->"] next
  | [] => false

/-- The parameters of a lambda. -/
def lambdaParameters (r : Rules) : Parser (List Code) := do
  if (← atSymbol "(") then
    (do
      let _ ← parens (separated1 "," identifier)
      return [])
    <|> (do return (← formalParameters r).2)
  else
    skip 1
    return []

/-- A lambda. A body that is a single name counts as none. -/
def lambdaExpression (r : Rules) : Parser Code := do
  let params ← lambdaParameters r
  let _ ← symbol "->"
  if (← atSymbol openBrace) then
    return .group (params ++ [.group (← r.block)])
  else
    return .group (params ++ withoutName (← r.expression 0 true))

/-- The keywords that start an expression. -/
def operandKeywords : List String :=
  ["this", "super", "new", "switch", "true", "false", "null"] ++ primitiveTypes

/-- The tokens start an operand; with `signs`, it may start with a sign. -/
def startsOperand (signs : Bool) (ts : List Token) : Bool :=
  match ts with
  | t :: _ =>
    match t.kind with
    | .number | .character | .text | .textOpen => true
    | .word => isIdentifier t || operandKeywords.contains t.text
    | .symbol =>
      ["(", "!", "~", "@"].contains t.text || (signs && ["+", "-", "++", "--"].contains t.text)
    | _ => false
  | [] => false

/-- What follows a type in parentheses makes it a cast. After a name, signs mean an operation on the
name instead, unless a second operand follows a double sign. -/
def startsCastValue (plain : Bool) (ts : List Token) : Bool :=
  startsOperand (!plain) ts ||
    match ts with
    | t :: next => (t.isSymbol "++" || t.isSymbol "--") && startsOperand false next
    | [] => false

/-- A cast. -/
def castExpression (r : Rules) (lambda : Bool) : Parser Code := do
  let uses ← parens (separated1 "&" (annotatedType r (type r)))
  let plain := uses.length == 1 && uses.all TypeUse.plain
  require (startsCastValue plain)
  let value ← r.expression castPrecedence lambda
  return .group (uses.flatMap TypeUse.parts ++ [value])

/-! ### Switches -/

/-- The label of a switch entry, without the colon or arrow. -/
def switchLabel (r : Rules) : Parser (List Code) :=
  (do let _ ← keyword "default"; return [])
  <|> (do
    let _ ← keyword "case"
    let values ←
      (do
        let values ← separated1 "," (r.expression 0 false)
        require fun ts =>
          startsWith [":"] ts || startsWith ["->"] ts || ts.head?.any (·.isWord "when")
        return values)
      <|> (do return [← recordPattern r])
      <|> (do
        let use ← type r
        let name ← identifier
        return use.parts ++ [.name name])
    if (← atWord "when") then
      skip 1
      return values ++ [← r.expression 0 false]
    else return values)

/-- An expression followed by a semicolon. -/
def expressionStatement (r : Rules) : Parser Code := do
  let code ← r.expression 0 true
  let _ ← symbol ";"
  return .group [code]

/-- A throw statement. -/
def throwStatement (r : Rules) : Parser Code := do
  let _ ← keyword "throw"
  return .group [← expressionStatement r]

/-- A switch entry: a label with the statements after its colon, or with what its arrow leads to. -/
def switchEntry (r : Rules) : Parser (List Code) := do
  let label ← switchLabel r
  if (← atSymbol ":") then
    skip 1
    let statements ← many r.statement
    return label ++ statements
  else
    let _ ← symbol "->"
    if (← atSymbol openBrace) then return label ++ [.group (← r.block)]
    else if (← atWord "throw") then return label ++ [← throwStatement r]
    else return label ++ [← expressionStatement r]

/-- A switch, which is an expression as well as a statement. -/
def switchExpression (r : Rules) : Parser Code := do
  let _ ← keyword "switch"
  let subject ← parenthesized r
  let entries ← braces (many (switchEntry r))
  return .group (subject :: entries.flatten)

/-! ### Expressions -/

/-- A method reference of an annotated type. -/
def annotatedReference (r : Rules) : Parser Code := do
  let use ← annotatedType r (type r)
  methodReference r (.group use.parts)

/-- The symbols in front of an operand. -/
def unarySymbols : List String :=
  ["+", "-", "!", "~", "++", "--"]

/-- An operand with the symbols in front of it. -/
def operand (r : Rules) (lambda : Bool) : Parser Code := do
  match (← get).rest with
  | [] => failure
  | t :: rest =>
    if t.kind == .symbol && unarySymbols.contains t.text then
      skip 1
      return .group [← r.expression unaryPrecedence lambda]
    else if lambda && startsLambda (t :: rest) then lambdaExpression r
    else if t.isWord "switch" then switchExpression r
    else if t.isSymbol "@" then annotatedReference r
    else if t.isSymbol "(" then castExpression r lambda <|> primaryExpression r lambda
    else primaryExpression r lambda

/-- One operation on what has been read of an expression. -/
def operation (r : Rules) (least : Nat) (lambda : Bool) (left : Code) : Parser Code := do
  let ts := (← get).rest
  match operatorAt? ts with
  | some op =>
    if op.assigns || op.precedence < least then failure
    else
      skip op.width
      return .group [left, ← r.expression (op.precedence + 1) lambda]
  | none =>
    if ts.head?.any (·.isWord "instanceof") && least ≤ relationalPrecedence then
      skip 1
      return .group (left :: (← testedType r))
    else if startsWith ["?"] ts && least ≤ conditionalPrecedence then
      skip 1
      let consequence ← r.expression 0 true
      let _ ← symbol ":"
      let alternative ← r.expression conditionalPrecedence lambda
      return .group [left, consequence, alternative]
    else failure

/-- An expression whose operators bind at least as tightly as `least`. -/
def expression (r : Rules) (least : Nat) (lambda : Bool) : Parser Code := do
  extend (operation r least lambda) (← operand r lambda)

end DefectGraph.Java.Grammar
