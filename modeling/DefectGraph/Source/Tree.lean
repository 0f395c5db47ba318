import DefectGraph.Source.Declaration
import DefectGraph.Text.Utf8

/-!
# The declarations of a source file

A file's declarations and type bodies, each with its number, and the item tree that says how they are
nested.

## Main Definitions

* `Scope` - a type body, named or anonymous.
* `Item` - the nesting of types and declarations.
* `Tree` - a whole file.
* `Tree.outermost` - the outermost method or constructor around a declaration.
* `Tree.scopeChain` - the type bodies around a place, from the inside out.

## Main Statements

* `Tree.decl?_id`, `Tree.id_of_decl?` - a declaration is the one of its number.
* `Tree.enclosing?_lt`, `Tree.parent?_lt` - links lead to smaller numbers.

## Design Notes

A tree is not tied to the way its text was read, and a text with syntax errors has one as well. What a
tree carries with it is what every walk that numbers declarations and type bodies as it enters them gives:
numbers are places, links lead to what was entered before, and a type body lists its members.

A chain of links to enclosing declarations or bodies visits each number at most once, so the number of
declarations or bodies bounds its length.
-/

namespace DefectGraph.Source

/-- A type body. -/
structure Scope where
  id : ScopeId
  /-- The simple name of the type; an anonymous body has none. -/
  name : Option String
  parent : Option ScopeId
  binaryName : String
  /-- The methods and constructors declared directly in the body. -/
  callables : List DeclId
  deriving DecidableEq, Repr

/-- How types and declarations are nested in a file. -/
inductive Item where
  /-- A named type; all but the types at the top of a file are nested. -/
  | type (scope : ScopeId) (name : String) (nested : Bool) (members : List Item)
  /-- An inline class body. -/
  | anonymous (scope : ScopeId) (members : List Item)
  /-- A method or constructor with the types inside its body. -/
  | callable (decl : DeclId) (inner : List Item)
  /-- An enum constant with the types inside its arguments and its body. -/
  | enumConstant (decl : DeclId) (inner : List Item)
  deriving Repr

/-- The methods and constructors among declarations that are members of a type body. -/
def callablesIn (decls : List Declaration) (scope : ScopeId) : List DeclId :=
  (decls.filter fun d => d.scope == scope && d.isCallable).map Declaration.id

/-- A source file. Declarations and scopes stand at the places that their numbers name. -/
structure Tree where
  /-- The source text. -/
  source : String
  package : String
  /-- The text has syntax errors, and the rest is what could be made of it. -/
  hasErrors : Bool
  decls : List Declaration
  scopes : List Scope
  items : List Item
  declsNumbered : decls.map Declaration.id = List.range decls.length
  scopesNumbered : scopes.map Scope.id = List.range scopes.length
  /-- What is around a declaration comes before it. -/
  enclosingBefore : ∀ d ∈ decls, ∀ up ∈ d.enclosing, up < d.id
  parentBefore : ∀ s ∈ scopes, ∀ up ∈ s.parent, up < s.id
  /-- A declaration is a member of a type body, and is named after it. -/
  owned : ∀ d ∈ decls, ∃ s ∈ scopes, s.id = d.scope ∧ s.binaryName = d.owner
  /-- Only a named type can stand at the top of a file. -/
  topNamed : ∀ s ∈ scopes, s.parent = none → s.name ≠ none
  /-- A type body lists the methods and constructors that are its members. -/
  members : ∀ s ∈ scopes, s.callables = callablesIn decls s.id
  deriving Repr

/-- The numbers met by following links from a number, itself included, up to a number of steps. -/
def chainFor (next : Nat → Option Nat) : Nat → Nat → List Nat
  | 0, id => [id]
  | steps + 1, id =>
    match next id with
    | some up => id :: chainFor next steps up
    | none => [id]

namespace Tree

/-- The declaration of that number. -/
def decl? (t : Tree) (id : DeclId) : Option Declaration := t.decls[id]?

/-- The declaration of a number has that number. -/
theorem id_of_decl? {t : Tree} {id : DeclId} {d : Declaration} (found : t.decl? id = some d) :
    d.id = id := by
  obtain ⟨bound, rfl⟩ := List.getElem?_eq_some_iff.mp found
  have numbers : (t.decls.map Declaration.id)[id]? = (List.range t.decls.length)[id]? := by
    rw [t.declsNumbered]
  simpa [bound] using numbers

/-- A declaration is the one of its number. -/
theorem decl?_id {t : Tree} {d : Declaration} (declared : d ∈ t.decls) : t.decl? d.id = some d := by
  obtain ⟨place, found⟩ := List.getElem?_of_mem declared
  have same : d.id = place := t.id_of_decl? found
  rw [same]
  exact found

/-- The number of a declaration is one of its file. -/
theorem lt_of_decl? {t : Tree} {id : DeclId} {d : Declaration} (found : t.decl? id = some d) :
    id < t.decls.length :=
  (List.getElem?_eq_some_iff.mp found).choose

/-- The type body of that number. -/
def scope? (t : Tree) (id : ScopeId) : Option Scope := t.scopes[id]?

/-- The type body of a number has that number. -/
theorem id_of_scope? {t : Tree} {id : ScopeId} {s : Scope} (found : t.scope? id = some s) :
    s.id = id := by
  obtain ⟨bound, rfl⟩ := List.getElem?_eq_some_iff.mp found
  have numbers : (t.scopes.map Scope.id)[id]? = (List.range t.scopes.length)[id]? := by
    rw [t.scopesNumbered]
  simpa [bound] using numbers

/-- A type body is the one of its number. -/
theorem scope?_id {t : Tree} {s : Scope} (mem : s ∈ t.scopes) : t.scope? s.id = some s := by
  obtain ⟨place, found⟩ := List.getElem?_of_mem mem
  have same : s.id = place := id_of_scope? found
  rw [same]
  exact found

/-- The signature of the declaration of that number. -/
def signature (t : Tree) (id : DeclId) : String :=
  ((t.decl? id).map Declaration.signature).getD ""

/-- The method or constructor directly around a declaration. -/
def enclosing? (t : Tree) (id : DeclId) : Option DeclId :=
  (t.decl? id).bind Declaration.enclosing

/-- The type body directly around a type body. -/
def parent? (t : Tree) (id : ScopeId) : Option ScopeId :=
  (t.scope? id).bind Scope.parent

/-- The method or constructor around a declaration has the smaller number. -/
theorem enclosing?_lt {t : Tree} (id up : DeclId) (link : t.enclosing? id = some up) : up < id := by
  obtain ⟨d, found, above⟩ := Option.bind_eq_some_iff.mp link
  rw [← t.id_of_decl? found]
  exact t.enclosingBefore d (List.mem_of_getElem? found) up above

/-- The type body around a type body has the smaller number. -/
theorem parent?_lt {t : Tree} (id up : ScopeId) (link : t.parent? id = some up) : up < id := by
  obtain ⟨s, found, above⟩ := Option.bind_eq_some_iff.mp link
  rw [← t.id_of_scope? found]
  exact t.parentBefore s (List.mem_of_getElem? found) up above

/-- A declaration and the methods and constructors around it, from the inside out. -/
def enclosingChain (t : Tree) (id : DeclId) : List DeclId :=
  chainFor t.enclosing? t.decls.length id

/-- The outermost method or constructor around a declaration, itself when there is none. -/
def outermost (t : Tree) (id : DeclId) : DeclId :=
  (t.enclosingChain id).getLastD id

/-- A type body and the bodies around it, from the inside out. -/
def scopeChain (t : Tree) (id : ScopeId) : List Scope :=
  (chainFor t.parent? t.scopes.length id).filterMap t.scope?

/-- The simple name of the nearest named type around a type body, itself included. -/
def typeName? (t : Tree) (id : ScopeId) : Option String :=
  (t.scopeChain id).findSome? Scope.name

/-- The bytes of the source that a declaration takes. A declaration whose extent is no part of the text
has none. -/
def bytesOf (t : Tree) (id : DeclId) : List UInt8 :=
  match t.decl? id with
  | some d => (Text.Utf8.slice? (Text.Utf8.encode t.source) d.span.start d.span.stop).getD []
  | none => []

/-- The type bodies with that simple name. -/
def scopesNamed (t : Tree) (name : String) : List Scope :=
  t.scopes.filter fun s => s.name == some name

end Tree

end DefectGraph.Source
