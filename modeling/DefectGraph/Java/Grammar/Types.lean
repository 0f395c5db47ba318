import DefectGraph.Name
import DefectGraph.Java.Grammar.Rules

/-!
# Types and annotations

## Main Definitions

* `annotationMark`, `elementValue` - annotations and the values of their elements.
* `type`, `typeArguments`, `typeParameters` - types, and what may stand in angle brackets.
* `modifiers` - what stands in front of a declaration.
* `formalParameters` - the parameters of a method or constructor, the receiver parameter aside.

## Design Notes

A type is read for two purposes. Its name, its array brackets and its text describe a declaration, and the
code inside it, such as calls in the values of annotations, belongs to the code around. `TypeUse` has both,
and every rule here that describes something returns the code inside it as well.
-/

namespace DefectGraph.Java.Grammar

open DefectGraph.Java DefectGraph.Java.Parser
open DefectGraph.Source (Span TypeParam FormalParam RedirectKind)

/-! ### Annotations -/

/-- A dotted name, each part an identifier. -/
def dottedName : Parser (List Word) := do
  let first ← anyWord
  let more ← many do
    let _ ← symbol "."
    anyWord
  return first :: more

/-- An argument of an annotation: a value, perhaps after a name and an equals sign. -/
def annotationArgument (r : Rules) : Parser (List Code) := do
  let named ← looking fun ts =>
    match ts with
    | t :: u :: _ => t.kind == .word && u.isSymbol "="
    | _ => false
  if named then
    let key ← anyWord
    let _ ← symbol "="
    let value ← r.elementValue
    return [.name key, value]
  else
    return [← r.elementValue]

/-- An annotation with its arguments. -/
def annotationMark (r : Rules) : Parser Code := do
  let _ ← symbol "@"
  require fun ts => !(ts.head?.any fun t => t.isWord "interface" && t.adjacent)
  let names ← dottedName
  let args ← optionalList (parens (separated "," (annotationArgument r)))
  return .group ((names.map fun name => Code.name name.text) ++ args.flatten)

/-- The value of an annotation's element: an annotation, a list in braces, or an expression. -/
def elementValue (r : Rules) : Parser Code :=
  annotationMark r
    <|> (Code.group <$> bracedList r.elementValue)
    <|> r.expression 0 true

/-- The annotations in front of something. -/
def annotations (r : Rules) : Parser (List Code) := many (annotationMark r)

/-! ### Types -/

/-- A type with the annotations in front of it. -/
def annotatedType (r : Rules) (type : Parser TypeUse) : Parser TypeUse := do
  let marks ← annotations r
  if marks.isEmpty then type
  else
    let use ← type
    return { use with parts := marks ++ use.parts, plain := false }

/-- A type argument: a type, or a wildcard with its bound. -/
def typeArgument (r : Rules) : Parser (List Code) := do
  let marks ← annotations r
  if (← atSymbol "?") then
    let _ ← symbol "?"
    if (← atWord "extends") then
      let _ ← keyword "extends"
      return marks ++ (← annotatedType r r.type).parts
    else if (← atWord "super") then
      let _ ← keyword "super"
      return marks ++ .superRef :: (← annotatedType r r.type).parts
    else
      return marks
  else
    return marks ++ (← r.type).parts

/-- The type arguments in angle brackets; there may be none. -/
def typeArguments (r : Rules) : Parser (List Code) := do
  let args ← between "<" ">" (separated "," (typeArgument r))
  return args.flatten

/-- A dot that leads to a further part of a type's name. -/
def continuesType (ts : List Token) : Bool :=
  match ts with
  | dot :: t :: _ =>
    dot.isSymbol "." && (t.isSymbol "@" || (t.kind == .word && !memberKeywords.contains t.text))
  | _ => false

/-- What has been read of a type's name: the code inside, whether it has type arguments, whether its
last part has, and the place before these. -/
structure TypeName where
  parts : List Code
  generic : Bool
  base : Cursor

/-- The type arguments of a part of a type's name. -/
def typeNameArguments (r : Rules) (soFar : TypeName) : Parser TypeName := do
  let base ← get
  match ← maybe (typeArguments r) with
  | some args => return ⟨soFar.parts ++ args, true, base⟩
  | none => return ⟨soFar.parts, soFar.generic, base⟩

/-- A type that is neither annotated nor an array. -/
def simpleType (r : Rules) : Parser TypeUse := do
  match ← maybe (anyKeyword primitiveTypes) with
  | some t => return ⟨t.text, 0, t.text, [], false⟩
  | none =>
    let start ← get
    let _ ← identifier
    let first ← typeNameArguments r ⟨[], false, start⟩
    let name ← extend
      (fun soFar => do
        require continuesType
        let _ ← symbol "."
        let marks ← annotations r
        let _ ← anyWord
        typeNameArguments r ⟨soFar.parts ++ marks, soFar.generic, soFar.base⟩)
      first
    let stop ← get
    let spelledName := spelling (tokensBetween start name.base)
    return ⟨Name.dropTypeArguments spelledName, 0, spelling (tokensBetween start stop), name.parts,
      !name.generic⟩

/-- One pair of array brackets with the annotations in front of it. -/
def dimension (r : Rules) : Parser (List Code) := do
  let marks ← annotations r
  let _ ← symbol "["
  let _ ← symbol "]"
  return marks

/-- The number of array brackets in a spelling. -/
def countBrackets (text : String) : Nat :=
  text.toList.count '['

/-- Array brackets, at least one pair: the code of their annotations, and the number of opening
brackets in their spelling. -/
def dimensions (r : Rules) : Parser (List Code × Nat) := do
  let (marks, text) ← spelled (many1 (dimension r))
  return (marks.flatten, countBrackets text)

/-- Array brackets, if there are any. -/
def optionalDimensions (r : Rules) : Parser (List Code × Nat) :=
  dimensions r <|> pure ([], 0)

/-- A type without annotations in front of it. -/
def type (r : Rules) : Parser TypeUse := do
  let ((element, marks, dims), text) ← spelled do
    let element ← simpleType r
    let (marks, dims) ← optionalDimensions r
    return (element, marks, dims)
  return ⟨element.name, dims, text, element.parts ++ marks, element.plain && dims == 0⟩

/-- Types that a symbol separates: the code inside them. -/
def typeList (r : Rules) (separator : String) : Parser (List Code) := do
  let uses ← separated1 separator (annotatedType r (type r))
  return uses.flatMap TypeUse.parts

/-- A type parameter, with the code inside it. -/
def typeParameter (r : Rules) : Parser (TypeParam × List Code) := do
  let marks ← annotations r
  let name ← anyWord
  if (← atWord "extends") then
    let _ ← keyword "extends"
    let bounds ← separated1 "&" (annotatedType r (type r))
    return (⟨name, (bounds.head?.map TypeUse.name)⟩, marks ++ bounds.flatMap TypeUse.parts)
  else
    return (⟨name, none⟩, marks)

/-- Type parameters in angle brackets, with the code inside them. -/
def typeParameters (r : Rules) : Parser (List TypeParam × List Code) := do
  let params ← between "<" ">" (separated1 "," (typeParameter r))
  return (params.map Prod.fst, params.flatMap Prod.snd)

/-- Type parameters, if there are any. -/
def optionalTypeParameters (r : Rules) : Parser (List TypeParam × List Code) :=
  typeParameters r <|> pure ([], [])

/-! ### Modifiers -/

/-- The words that modify a declaration. -/
def modifierWords : List String :=
  ["public", "protected", "private", "abstract", "static", "final", "strictfp", "default",
   "synchronized", "native", "transient", "volatile"]

/-- One modifier or annotation, with the code inside it. `sealed` modifies only when a word or an
annotation follows. -/
def modifier (r : Rules) : Parser (List Code) :=
  (do return [← annotationMark r])
    <|> (do let _ ← anyKeyword modifierWords; return [])
    <|> (do
      let _ ← keyword "non"
      let _ ← satisfy fun t => t.isSymbol "-" && t.adjacent
      let _ ← satisfy fun t => t.isWord "sealed" && t.adjacent
      return [])
    <|> (do
      let _ ← keyword "sealed"
      require fun ts => ts.head?.any fun t => t.kind == .word || t.isSymbol "@"
      return [])

/-- The modifiers in front of a declaration, with the code inside them. -/
def modifiers (r : Rules) : Parser (List Code) := do
  return (← many (modifier r)).flatten

/-! ### Formal parameters -/

/-- A variable's name and the array brackets after it. -/
def variableName (r : Rules) : Parser (String × List Code × Nat) := do
  let name ← anyWord
  let (marks, dims) ← optionalDimensions r
  return (name, marks, dims)

/-- A formal parameter, with the code inside it. -/
def formalParameter (r : Rules) : Parser (FormalParam × List Code) := do
  let marks ← modifiers r
  let use ← type r
  if (← atSymbol "...") then
    let _ ← symbol "..."
    let more ← annotations r
    let (_, dimMarks, _) ← variableName r
    let value ← optionalList do
      let _ ← symbol "="
      return withoutName (← r.initializer)
    let param : FormalParam :=
      ⟨use.name, use.dims, true, none, Name.collapseSpaces use.text ++ "..."⟩
    return (param, marks ++ use.parts ++ more ++ dimMarks ++ value)
  else
    let (_, dimMarks, trailing) ← variableName r
    let display := Name.collapseSpaces use.text ++ String.join (List.replicate trailing "[]")
    let param : FormalParam := ⟨use.name, use.dims + trailing, false, none, display⟩
    return (param, marks ++ use.parts ++ dimMarks)

/-- The parameter that stands for the object itself; it is no formal parameter. After annotations the
class around the object has to be named, since a plain `this` is a name there. -/
def receiverParameter (r : Rules) : Parser (List Code) := do
  let marks ← annotations r
  let use ← type r
  let outer ← many do
    let name ← wordExcept ["this"]
    let _ ← symbol "."
    return Code.name name
  let _ ← keyword "this"
  if !marks.isEmpty && outer.isEmpty then failure
  return marks ++ use.parts ++ .thisRef :: outer

/-- The formal parameters in parentheses, with the code inside them. -/
def formalParameters (r : Rules) : Parser (List FormalParam × List Code) := parens do
  match ← maybe (receiverParameter r) with
  | some receiver =>
    let more ← optionalList do
      let _ ← symbol ","
      separated1 "," (formalParameter r)
    return (more.map Prod.fst, receiver ++ more.flatMap Prod.snd)
  | none =>
    let params ← separated "," (formalParameter r)
    return (params.map Prod.fst, params.flatMap Prod.snd)

end DefectGraph.Java.Grammar
