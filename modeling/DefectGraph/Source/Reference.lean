/-!
# References

Calls, constructions and constructor redirections that the body of a declaration contains: what may lead
from one declaration to another.

## Main Definitions

* `DeclId`, `ScopeId` - declarations and type bodies by their numbers in a file.
* `Receiver`, `RefTarget` - what stands in front of a call or a method reference.
* `Reference` - a place that may lead to another declaration.

## Design Notes

A reference holds what can be told from the text alone, and where it stands; what it leads to is decided
later, by `Tree.resolve` or by name. Numbers rather than pointers keep a file a plain value with decidable
equality.
-/

namespace DefectGraph.Source

/-- A declaration's number in its file. -/
abbrev DeclId : Type := Nat

/-- A type body's number in its file. -/
abbrev ScopeId : Type := Nat

/-- What stands in front of a call. -/
inductive ReceiverKind where
  | thisObject
  | superObject
  /-- A plain identifier: a variable or a type. -/
  | name (text : String)
  | fieldAccess
  | objectCreation
  | stringLiteral
  | other
  deriving DecidableEq, Repr

/-- The receiver of a call. -/
structure Receiver where
  kind : ReceiverKind
  /-- The receiver mentions a name, a field, `super`, a construction or a string literal. -/
  namesOther : Bool
  deriving DecidableEq, Repr

/-- What stands in front of the colons of a method reference. -/
inductive RefTarget where
  | thisObject
  | superObject
  | name (text : String)
  | expression
  deriving DecidableEq, Repr

/-- The constructor that an explicit constructor call goes to: one of the same class, or one of its
superclass. -/
inductive RedirectKind where
  | toThis
  | toSuper
  deriving DecidableEq, Repr

/-- A place in a body that may lead to another declaration. The scope is the type body around it. -/
inductive Reference where
  | call (name : String) (receiver : Option Receiver) (argCount : Nat) (scope : ScopeId)
  | methodRef (name : String) (target : RefTarget) (scope : ScopeId)
  /-- A construction of the type of that simple name. -/
  | creation (typeName : String) (hasBody : Bool)
  /-- An explicit constructor call in the named type; it may be the constructor's only statement. -/
  | redirect (kind : RedirectKind) (typeName : String) (isLast : Bool)
  deriving DecidableEq, Repr

/-- The reference is an explicit constructor call. -/
def Reference.isRedirect : Reference → Bool
  | .redirect .. => true
  | _ => false

end DefectGraph.Source
