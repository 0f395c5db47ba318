import DefectGraph.Source.Tree

/-!
# Resolving references

A reference is resolved only when its target is certain from the file alone: a call without a receiver,
on `this` or on a type, and a method reference of `this` or of a type, when exactly one method fits by
name and number of arguments.

## Main Definitions

* `Tree.candidates` - the methods of a type body that a name and a number of arguments fit.
* `Tree.resolve` - the declaration that a reference certainly means.

## Design Notes

A call without a receiver is looked for in the type body around it and then in the bodies further out, and
the innermost body with a method that fits settles it, even if two fit there and nothing is certain. A type
that is named is looked for in the whole file, by its simple name, and must be the only one.
-/

namespace DefectGraph.Source

/-- The only member of a list. -/
def only? {α : Type} : List α → Option α
  | [a] => some a
  | _ => none

namespace Tree

/-- The method has the name and accepts the number of arguments, if there is one. -/
def fits (name : String) (argCount : Option Nat) (d : Declaration) : Bool :=
  d.kind == .method && d.name == name && argCount.all d.acceptsArity

/-- The methods declared in a type body that a name and a number of arguments fit. -/
def candidates (t : Tree) (name : String) (argCount : Option Nat) (scope : Scope) : List DeclId :=
  scope.callables.filter fun id => (t.decl? id).any (fits name argCount)

/-- The only fitting method of a type body. -/
def uniqueIn? (t : Tree) (name : String) (argCount : Option Nat) (scope : Scope) : Option DeclId :=
  only? (t.candidates name argCount scope)

/-- The only fitting method of the innermost type body that has a fitting method. -/
def inScopeChain? (t : Tree) (name : String) (argCount : Option Nat) (scope : ScopeId) :
    Option DeclId :=
  (((t.scopeChain scope).map (t.candidates name argCount)).find? fun found => !found.isEmpty).bind only?

/-- The only type of that simple name. -/
def typeNamed? (t : Tree) (name : String) : Option Scope :=
  only? (t.scopesNamed name)

/-- The declaration that a reference certainly means. -/
def resolve (t : Tree) : Reference → Option DeclId
  | .call name none args scope => t.inScopeChain? name (some args) scope
  | .call name (some receiver) args scope =>
    match receiver.kind with
    | .thisObject => (t.scope? scope).bind (t.uniqueIn? name (some args))
    | .name type => (t.typeNamed? type).bind (t.uniqueIn? name (some args))
    | _ => none
  | .methodRef name target scope =>
    match target with
    | .thisObject => (t.scope? scope).bind (t.uniqueIn? name none)
    | .name type => (t.typeNamed? type).bind (t.uniqueIn? name none)
    | .superObject | .expression => none
  | .creation .. | .redirect .. => none

end Tree

end DefectGraph.Source
