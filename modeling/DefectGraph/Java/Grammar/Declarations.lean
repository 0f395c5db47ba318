import DefectGraph.Java.Grammar.Expressions

/-!
# Declarations of types and their members

## Main Definitions

* `methodRest`, `constructorRest`, `explicitCall` - methods and constructors, and explicit constructor calls.
* `typeDeclaration` - classes, interfaces, enums, records and annotation types.
* `member`, `body` - what may stand in the body of a type of each kind.

## Design Notes

Modifiers, type parameters and types stand in front of a declaration before it is known what is declared. So
they are read once, and the rules named `...Rest` get the code in front as an argument, with the offset that
the declaration starts at where they need one.
-/

namespace DefectGraph.Java.Grammar

open DefectGraph.Java DefectGraph.Java.Parser
open DefectGraph.Source (Span TypeParam FormalParam RedirectKind)

/-! ### Variables -/

/-- A declared variable with its initial value, which counts as none when it is a single name. -/
def declarator (r : Rules) : Parser (List Code) := do
  let (_, marks, _) ← variableName r
  let value ← optionalList do
    let _ ← symbol "="
    return withoutName (← initializer r)
  return marks ++ value

/-- The declared variables after a type, up to the semicolon. -/
def declarators (r : Rules) : Parser (List Code) := do
  let declared ← separated1 "," (declarator r)
  let _ ← symbol ";"
  return declared.flatten

/-! ### Methods and constructors -/

/-- The thrown types after a list of parameters. -/
def throwsClause (r : Rules) : Parser (List Code) := optionalList do
  let _ ← keyword "throws"
  typeList r ","

/-- The rest of a method from its name on. -/
def methodRest (r : Rules) (start : Nat) (typeParams : List TypeParam) (front : List Code) :
    Parser Code := do
  let name ← anyWord
  let (params, inside) ← formalParameters r
  let (marks, _) ← optionalDimensions r
  let thrown ← throwsClause r
  let body ← r.block <|> (do let _ ← symbol ";"; return [])
  let header := front ++ inside ++ marks ++ thrown
  return .method ⟨name, typeParams, params, ⟨start, (← get).stop⟩⟩ header body

/-- An explicit constructor call with its code. -/
def explicitCall (r : Rules) : Parser (RedirectKind × List Code) :=
  (do
    let args ← optionalList (typeArguments r)
    let target ← anyKeyword ["this", "super"]
    let values ← arguments r
    let _ ← symbol ";"
    if target.text == "this" then return (.toThis, args ++ .thisRef :: values)
    else return (.toSuper, args ++ .superRef :: values))
  <|> (do
    let (object, _) ← primary r
    let _ ← symbol "."
    let args ← optionalList (typeArguments r)
    let _ ← keyword "super"
    let values ← arguments r
    let _ ← symbol ";"
    return (.toSuper, object :: args ++ .superRef :: values))

/-- The body of a constructor: an explicit constructor call, if there is one, and statements. -/
def constructorBody (r : Rules) : Parser (Option (RedirectKind × List Code) × List Code) := braces do
  let redirect ← maybe (explicitCall r)
  let statements ← many r.statement
  return (redirect, statements)

/-- The rest of a constructor from its name on. -/
def constructorRest (r : Rules) (start : Nat) (typeParams : List TypeParam) (front : List Code) :
    Parser Code := do
  let name ← identifier
  let (params, inside) ← formalParameters r
  let thrown ← throwsClause r
  let (redirect, body) ← constructorBody r
  let head : Head := ⟨name, typeParams, params, ⟨start, (← get).stop⟩⟩
  return .ctor head (front ++ inside ++ thrown) (redirect.map Prod.fst)
    ((redirect.map Prod.snd).getD []) body

/-- The rest of a record's constructor without parameters from its name on. -/
def compactConstructorRest (r : Rules) (start : Nat) (front : List Code) : Parser Code := do
  let name ← identifier
  let body ← r.block
  return .ctor ⟨name, [], [], ⟨start, (← get).stop⟩⟩ front none [] body

/-! ### Types -/

/-- The tokens start the declaration of a type, after its modifiers. -/
def startsTypeDeclaration (ts : List Token) : Bool :=
  match ts with
  | t :: u :: _ =>
    if t.isSymbol "@" then u.isWord "interface" && u.adjacent
    else t.kind == .word && u.kind == .word && ["class", "interface", "enum", "record"].contains t.text
  | _ => false

/-- The types after a keyword, if it is there: the code inside them. -/
def typesAfter (r : Rules) (word : String) : Parser (List Code) := optionalList do
  let _ ← keyword word
  typeList r ","

/-- A named type as it is declared. -/
structure TypeDeclaration where
  name : Word
  typeParams : List TypeParam
  /-- The code in front of the body. -/
  header : List Code
  members : List Code

/-- The declaration as code inside other code. -/
def TypeDeclaration.toCode (d : TypeDeclaration) : Code :=
  .type d.name d.typeParams d.header d.members

/-- A class from its keyword on. -/
def classRest (r : Rules) (front : List Code) : Parser TypeDeclaration := do
  let _ ← keyword "class"
  let name ← anyWord
  let (params, inside) ← optionalTypeParameters r
  let super ← optionalList do
    let _ ← keyword "extends"
    return (← annotatedType r (type r)).parts
  let interfaces ← typesAfter r "implements"
  let permitted ← typesAfter r "permits"
  let members ← r.body .classBody
  return ⟨name, params, front ++ inside ++ super ++ interfaces ++ permitted, members⟩

/-- An interface from its keyword on. -/
def interfaceRest (r : Rules) (front : List Code) : Parser TypeDeclaration := do
  let _ ← keyword "interface"
  let name ← anyWord
  let (params, inside) ← optionalTypeParameters r
  let interfaces ← typesAfter r "extends"
  let permitted ← typesAfter r "permits"
  let members ← r.body .interfaceBody
  return ⟨name, params, front ++ inside ++ interfaces ++ permitted, members⟩

/-- A record from its keyword on. -/
def recordRest (r : Rules) (front : List Code) : Parser TypeDeclaration := do
  let _ ← keyword "record"
  let name ← anyWord
  let (params, inside) ← optionalTypeParameters r
  let (_, components) ← formalParameters r
  let interfaces ← typesAfter r "implements"
  let members ← r.body .classBody
  return ⟨name, params, front ++ inside ++ components ++ interfaces, members⟩

/-- An annotation type from its keyword on. -/
def annotationTypeRest (r : Rules) (front : List Code) : Parser TypeDeclaration := do
  let _ ← symbol "@"
  let _ ← keyword "interface"
  let name ← anyWord
  let members ← r.body .annotationBody
  return ⟨name, [], front, members⟩

/-- An enum constant. -/
def enumConstant (r : Rules) : Parser Code := do
  let start ← offset
  let front ← modifiers r
  let name ← identifier
  let values ← optionalList (arguments r)
  let body ← optionalInlineBody r
  return .constant name ⟨start, (← get).stop⟩ front (values ++ body)

/-- An enum from its keyword on. -/
def enumRest (r : Rules) (front : List Code) : Parser TypeDeclaration := do
  let _ ← keyword "enum"
  let name ← anyWord
  let interfaces ← typesAfter r "implements"
  let members ← r.body .enumBody
  return ⟨name, [], front ++ interfaces, members⟩

/-- A type declaration after its modifiers, whose code is `front`. -/
def typeDeclaration (r : Rules) (front : List Code) : Parser TypeDeclaration := do
  require startsTypeDeclaration
  match (← get).rest with
  | t :: _ =>
    if t.text == "class" then classRest r front
    else if t.text == "interface" then interfaceRest r front
    else if t.text == "enum" then enumRest r front
    else if t.text == "record" then recordRest r front
    else annotationTypeRest r front
  | [] => failure

/-! ### Members -/

/-- The tokens are a name and a given symbol. -/
def isNameBefore (s : String) (ts : List Token) : Bool :=
  match ts with
  | t :: u :: _ => t.kind == .word && u.isSymbol s
  | _ => false

/-- A member of an annotation type after its modifiers: an element with its default, or constants. -/
def annotationMember (r : Rules) (front : List Code) : Parser Code := do
  let use ← type r
  if (← looking (isNameBefore "(")) then
    let _ ← anyWord
    let _ ← symbol "("
    let _ ← symbol ")"
    let (marks, _) ← optionalDimensions r
    let value ← optionalList do
      let _ ← keyword "default"
      return [← r.elementValue]
    let _ ← symbol ";"
    return .group (front ++ use.parts ++ marks ++ value)
  else
    return .group (front ++ use.parts ++ (← declarators r))

/-- A method or a field from its type on; a field has no type parameters. -/
def methodOrField (r : Rules) (start : Nat) (typeParams : List TypeParam) (front : List Code) :
    Parser Code := do
  let use ← type r
  if (← looking (isNameBefore "(")) then methodRest r start typeParams (front ++ use.parts)
  else if typeParams.isEmpty then return .group (front ++ use.parts ++ (← declarators r))
  else failure

/-- A method, constructor or field of a class after its modifiers. -/
def classMember (r : Rules) (start : Nat) (front : List Code) : Parser Code := do
  let (params, inside) ← optionalTypeParameters r
  if (← looking fun ts => ts.head?.any isIdentifier && isNameBefore "(" ts) then
    constructorRest r start params (front ++ inside)
  else if (← looking fun ts => ts.head?.any isIdentifier && isNameBefore openBrace ts) then
    compactConstructorRest r start (front ++ inside)
  else
    let marks ← annotations r
    methodOrField r start params (front ++ inside ++ marks)

/-- A method or field of an interface after its modifiers. -/
def interfaceMember (r : Rules) (start : Nat) (front : List Code) : Parser Code := do
  let (params, inside) ← optionalTypeParameters r
  let marks ← annotations r
  methodOrField r start params (front ++ inside ++ marks)

/-- A block of a class body, perhaps a static one. -/
def initializerBlock (r : Rules) : Parser Code := do
  let _ ← maybe (keyword "static")
  return .group (← r.block)

/-- A member after its modifiers that is no type. -/
def plainMember (r : Rules) (kind : BodyKind) (start : Nat) (front : List Code) : Parser Code :=
  match kind with
  | .classBody | .enumBody => classMember r start front
  | .interfaceBody => interfaceMember r start front
  | .annotationBody => annotationMember r front

/-- The body has initializer blocks. -/
def BodyKind.hasBlocks : BodyKind → Bool
  | .classBody | .enumBody => true
  | .interfaceBody | .annotationBody => false

/-- The tokens start an initializer block. -/
def startsBlock (ts : List Token) : Bool :=
  match ts with
  | t :: next => t.isSymbol openBrace || (t.isWord "static" && startsWith [openBrace] next)
  | [] => false

/-- A member of a type body; a lone semicolon has no code. -/
def member (r : Rules) (kind : BodyKind) : Parser (Option Code) := do
  if (← atSymbol ";") then
    skip 1
    return none
  else if kind.hasBlocks && (← looking startsBlock) then
    return some (← initializerBlock r)
  else
    let start ← offset
    let front ← modifiers r
    if (← looking startsTypeDeclaration) then
      return some (← typeDeclaration r front).toCode
    else
      return some (← plainMember r kind start front)

/-- The members of a type body. -/
def members (r : Rules) (kind : BodyKind) : Parser (List Code) := do
  return (← many (member r kind)).filterMap id

/-- The constants of an enum, and the members after them. -/
def enumMembers (r : Rules) : Parser (List Code) := do
  let constants ← separated "," (enumConstant r)
  let _ ← maybe (symbol ",")
  let more ← optionalList do
    let _ ← symbol ";"
    members r .enumBody
  return constants ++ more

/-- The members of a type body in braces. -/
def body (r : Rules) (kind : BodyKind) : Parser (List Code) :=
  braces (match kind with
    | .enumBody => enumMembers r
    | _ => members r kind)

end DefectGraph.Java.Grammar
