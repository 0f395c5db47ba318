import DefectGraph.Java.Code

/-!
# The references of a body

The references of a declaration are collected by a walk of their own, which starts at its body once the
type bodies inside have their numbers. A declaration inside another one is walked over again for the one
around it.

## Main Definitions

* `ownReference` - the reference that a single piece of code is.
* `Bodies` - the type bodies numbered so far, by the code that opens them.
* `collect` - the walk over a piece of code.
* `declaredReferences` - the references of what a piece of code declares.

## Main Statements

* `collectAll_append` - a walk over two pieces in turn goes on where the first one ends.
* `collect_of_isPlain` - plain code has its own reference and those of its parts.

## Design Notes

Pieces of code are told apart by their numbers: a piece has the number of those that start before it in
the file. A walk that starts in the middle of a file is given the number of the piece it starts at and
counts on by the sizes of what it passes, so that it knows every piece it meets by the number that any
other walk has for it. This is what ties a piece that opens a type body to its entry in `Bodies`.

Code that opens no body known to the table leaves what is inside it in the type body around it. An
explicit constructor call counts for its own constructor only: `redirectReference` is told whether to
count it, and is told not to at every constructor that a walk meets on its way.
-/

namespace DefectGraph.Source

open DefectGraph.Java (Code Head)

/-! ### References of single pieces of code -/

mutual

/-- The code mentions a name, a field, `super`, a construction or a string literal. Names that only
bind a variable or select a member are no part of the code. -/
def mentions : Code → Bool
  | .name _ | .superRef | .text _ | .field _ | .creation .. => true
  | .thisRef | .semicolon => false
  | .call _ args => mentionsAny args
  | .callOn object _ between args => mentions object || mentionsAny between || mentionsAny args
  | .methodRef target _ parts => mentions target || mentionsAny parts
  | .inlineBody members => mentionsAny members
  | .type .. | .method .. | .ctor .. | .constant .. => true
  | .group parts => mentionsAny parts

/-- Some of the code mentions one of these. -/
def mentionsAny : List Code → Bool
  | [] => false
  | code :: rest => mentions code || mentionsAny rest

end

/-- The kind of receiver that an expression is. -/
def receiverKind : Code → ReceiverKind
  | .thisRef => .thisObject
  | .superRef => .superObject
  | .name text => .name text
  | .field _ => .fieldAccess
  | .creation .. => .objectCreation
  | .text _ => .stringLiteral
  | _ => .other

/-- The receiver that an expression is. -/
def receiver (object : Code) : Receiver :=
  ⟨receiverKind object, mentions object⟩

/-- The target of a method reference that an expression is. -/
def refTarget : Code → RefTarget
  | .thisRef => .thisObject
  | .superRef => .superObject
  | .name text => .name text
  | _ => .expression

/-- The code is an inline class body. -/
def isInlineBody : Code → Bool
  | .inlineBody _ => true
  | _ => false

/-- The reference that a piece of code itself is, in a given type body. -/
def ownReference (scope : ScopeId) : Code → List Reference
  | .call method args => [.call method none args.length scope]
  | .callOn object method _ args => [.call method (some (receiver object)) args.length scope]
  | .methodRef target (some method) _ => [.methodRef method (refTarget target) scope]
  | .creation type parts => [.creation type (parts.any isInlineBody)]
  | _ => []

/-- The reference that an explicit constructor call is, if such calls count: then `counted` is the simple
name of the type around it. The call is the last statement when nothing but empty statements follows. -/
def redirectReference (counted : Option String) (redirect : Option RedirectKind) (rest : List Code) :
    List Reference :=
  match counted, redirect with
  | some type, some kind => [.redirect kind type (rest.all Code.isSemicolon)]
  | _, _ => []

/-- Where explicit constructor calls do not count there is none. -/
@[simp]
theorem redirectReference_none (redirect : Option RedirectKind) (rest : List Code) :
    redirectReference none redirect rest = [] := rfl

/-! ### The type bodies known to a walk -/

/-- The numbers of type bodies, by the numbers of the pieces of code that open them. -/
abbrev Bodies : Type := List (Nat × ScopeId)

/-- The type body that a piece of code opens; one that is not known is part of the body around it. -/
def Bodies.scopeAt (bodies : Bodies) (node : Nat) (around : ScopeId) : ScopeId :=
  (bodies.lookup node).getD around

/-! ### The walk -/

mutual

/-- The references in a piece of code, given its number and the type body around it. -/
def collect (bodies : Bodies) (scope : ScopeId) (node : Nat) : Code → List Reference
  | .name _ | .thisRef | .superRef | .semicolon => []
  | .text parts | .field parts | .group parts => collectAll bodies scope (node + 1) parts
  | .call method args =>
    ownReference scope (.call method args) ++ collectAll bodies scope (node + 1) args
  | .callOn object method between args =>
    ownReference scope (.callOn object method between args)
      ++ (collect bodies scope (node + 1) object
      ++ (collectAll bodies scope (node + 1 + object.size) between
      ++ collectAll bodies scope (node + 1 + object.size + Code.sizeAll between) args))
  | .methodRef target method parts =>
    ownReference scope (.methodRef target method parts)
      ++ (collect bodies scope (node + 1) target
      ++ collectAll bodies scope (node + 1 + target.size) parts)
  | .creation type parts =>
    ownReference scope (.creation type parts) ++ collectAll bodies scope (node + 1) parts
  | .inlineBody members => collectAll bodies (bodies.scopeAt node scope) (node + 1) members
  | .type _ _ header members =>
    collectAll bodies scope (node + 1) header
      ++ collectAll bodies (bodies.scopeAt node scope) (node + 1 + Code.sizeAll header) members
  | .method _ header body =>
    collectAll bodies scope (node + 1) header
      ++ collectAll bodies scope (node + 1 + Code.sizeAll header) body
  | .ctor _ header redirect redirectParts body =>
    collectAll bodies scope (node + 1) header
      -- the explicit constructor call of a constructor inside is its own
      ++ (redirectReference none redirect body
      ++ (collectAll bodies scope (node + 1 + Code.sizeAll header) redirectParts
      ++ collectAll bodies scope (node + 1 + Code.sizeAll header + Code.sizeAll redirectParts) body))
  | .constant _ _ header parts =>
    collectAll bodies scope (node + 1) header
      ++ collectAll bodies scope (node + 1 + Code.sizeAll header) parts

/-- The references in pieces of code one after the other, given the number of the first. -/
def collectAll (bodies : Bodies) (scope : ScopeId) (node : Nat) : List Code → List Reference
  | [] => []
  | code :: rest => collect bodies scope node code ++ collectAll bodies scope (node + code.size) rest

end

/-- The references of what a piece of code declares, given its number: those of the body of a method or
constructor, and those of all of a constant. The explicit constructor call of a constructor counts, in the
type of the given simple name. -/
def declaredReferences (bodies : Bodies) (type : String) (scope : ScopeId) (node : Nat) :
    Code → List Reference
  | .method _ header body => collectAll bodies scope (node + 1 + Code.sizeAll header) body
  | .ctor _ header redirect redirectParts body =>
    redirectReference (some type) redirect body
      ++ (collectAll bodies scope (node + 1 + Code.sizeAll header) redirectParts
      ++ collectAll bodies scope (node + 1 + Code.sizeAll header + Code.sizeAll redirectParts) body)
  | .constant _ _ header parts =>
    collectAll bodies scope (node + 1) header
      ++ collectAll bodies scope (node + 1 + Code.sizeAll header) parts
  | _ => []

/-! ### Walks one after the other -/

section

variable (bodies : Bodies) (scope : ScopeId) (node : Nat)

@[simp]
theorem collectAll_nil : collectAll bodies scope node [] = [] := rfl

/-- The walk over the next piece starts with the number behind the first one. -/
theorem collectAll_cons (code : Code) (rest : List Code) :
    collectAll bodies scope node (code :: rest) =
      collect bodies scope node code ++ collectAll bodies scope (node + code.size) rest := rfl

@[simp]
theorem collectAll_singleton (code : Code) :
    collectAll bodies scope node [code] = collect bodies scope node code :=
  List.append_nil _

/-- The walk over more code goes on where the walk over the first part ends. -/
theorem collectAll_append (first second : List Code) :
    collectAll bodies scope node (first ++ second) =
      collectAll bodies scope node first ++
        collectAll bodies scope (node + Code.sizeAll first) second := by
  induction first generalizing node with
  | nil => rfl
  | cons code rest ih =>
    rw [List.cons_append, collectAll_cons, ih, collectAll_cons, List.append_assoc, Code.sizeAll_cons,
      Nat.add_assoc]

/-- Plain code has its own reference and those of its parts. -/
theorem collect_of_isPlain {code : Code} (plain : code.isPlain = true) :
    collect bodies scope node code =
      ownReference scope code ++ collectAll bodies scope (node + 1) code.parts := by
  cases code with
  | inlineBody | type | method | ctor | constant => cases plain
  | callOn object method between args =>
    simp only [collect, Code.parts, collectAll_cons, collectAll_append]
  | _ => rfl

/-- A method or constructor has the references of its header and its body, where no explicit constructor
call counts. -/
theorem collect_of_callable {code : Code} {kind : DeclKind} {head : Head}
    (callable : code.callable? = some (kind, head)) :
    collect bodies scope node code =
      collectAll bodies scope (node + 1) code.header ++
        collectAll bodies scope (node + 1 + Code.sizeAll code.header) code.body := by
  cases code with
  | method => rfl
  | ctor =>
    simp only [collect, redirectReference_none, List.nil_append, Code.header, Code.body,
      collectAll_append]
  | _ => cases callable

end

end DefectGraph.Source
