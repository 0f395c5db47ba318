import DefectGraph.Source.Reference

/-!
# Declarations

Methods, constructors and enum constants as they are declared in a source file.

## Main Definitions

* `FormalParam`, `TypeParam` - the parameters of a declaration.
* `Declaration` - a declared method, constructor or enum constant with the references in its body.
* `Declaration.signature` - the spelling by which a declaration is shown.
* `Declaration.acceptsArity` - whether a call with so many arguments can mean the declaration.

## Design Notes

A declaration holds what the text around and inside it says: its place, its owner's binary name, the method or
constructor around it, and the references in its body. All of these are fixed when a file is outlined, and
nothing is filled in later.
-/

namespace DefectGraph.Source

/-- A part of the source text, from the byte `start` to before the byte `stop`. -/
structure Span where
  start : Nat
  stop : Nat
  deriving DecidableEq, Repr

/-- A type parameter with its first bound, stripped of type arguments. -/
structure TypeParam where
  name : String
  bound : Option String
  deriving DecidableEq, Repr

/-- A formal parameter as written in the source. -/
structure FormalParam where
  /-- The declared type without type arguments and array brackets. -/
  typeName : String
  /-- The array dimensions, those after the parameter's name included. -/
  dims : Nat
  /-- The parameter takes any number of arguments. -/
  varargs : Bool
  /-- The bound of the type variable that `typeName` names, if it names one. -/
  typeVarBound : Option String
  /-- The spelling of the type in a signature. -/
  display : String
  deriving DecidableEq, Repr

/-- The kinds of declarations. -/
inductive DeclKind where
  | method
  | constructor
  | enumConstant
  deriving DecidableEq, Repr

/-- A declared method, constructor or enum constant. -/
structure Declaration where
  id : DeclId
  kind : DeclKind
  name : String
  params : List FormalParam
  /-- The nearest method or constructor around this declaration. -/
  enclosing : Option DeclId
  /-- The type body that the declaration is a member of. -/
  scope : ScopeId
  /-- The binary name of the type it is a member of. -/
  owner : String
  span : Span
  /-- The references in the body, in source order. -/
  references : List Reference
  deriving DecidableEq, Repr

/-- The declaration is a method or constructor. -/
def Declaration.isCallable (d : Declaration) : Bool :=
  d.kind != .enumConstant

/-- The name, followed by the types of the parameters unless it is an enum constant. -/
def Declaration.signature (d : Declaration) : String :=
  match d.kind with
  | .enumConstant => d.name
  | .method | .constructor =>
    d.name ++ "(" ++ String.intercalate ", " (d.params.map FormalParam.display) ++ ")"

/-- A call with `args` arguments can mean the declaration: the counts are equal, or the last parameter
takes any number of arguments and all others are given. -/
def Declaration.acceptsArity (d : Declaration) (args : Nat) : Bool :=
  match d.params.getLast? with
  | some last => if last.varargs then d.params.length ≤ args + 1 else args == d.params.length
  | none => args == d.params.length

/-- The bound of the type variable `name`, when one of that name is in scope; the innermost one counts,
and a variable without a bound has `Object` for one. -/
def typeVariableBound (inScope : List TypeParam) (name : String) : Option String :=
  if name.contains '.' then none
  else (inScope.reverse.find? fun p => p.name == name).map fun p => p.bound.getD "Object"

/-- The parameter with the bound of the type variable that its type names. -/
def FormalParam.bindTypeVariable (inScope : List TypeParam) (p : FormalParam) : FormalParam :=
  { p with typeVarBound := typeVariableBound inScope p.typeName }

end DefectGraph.Source
