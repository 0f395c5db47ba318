import DefectGraph.Java.Word
import DefectGraph.Source.Declaration

/-!
# Java code

Java source text reduced to what declares a name, refers to one, or encloses something that does.
Everything else a program may contain (operators, statements, types, literals) survives only as a group
of the code inside it.

## Main Definitions

* `Head` - the head of a method or constructor.
* `Code` - the tree of declarations and references.
* `Code.parts`, `Code.size` - what a piece of code is made of, and how many pieces that is in all.
* `CompilationUnit` - the package declarations and the types at the top of a file.

## Design Notes

An identifier that refers to something is a `Code.name`; one that only binds a variable or names a
member leaves no trace. A `this(...)` or `super(...)` call is a part of the constructor it opens, so it
can stand nowhere else. Empty statements are kept apart from other code without parts, since they do not
count as statements behind such a call.

`Code.parts` looks at one piece of code from above: whatever kind of code it is, its parts stand in the
order of the text. Functions that recurse through all of the code are written out by kind, and agree with a
walk over the parts.
-/

namespace DefectGraph.Java

open DefectGraph.Source (Span TypeParam FormalParam DeclKind RedirectKind)

/-- The head of a method or constructor, and the extent of the whole declaration. -/
structure Head where
  name : Word
  typeParams : List TypeParam
  params : List FormalParam
  span : Span
  deriving DecidableEq, Repr

/-- A piece of Java code. -/
inductive Code where
  /-- An identifier that refers to something. -/
  | name (text : String)
  /-- The object itself. -/
  | thisRef
  /-- The keyword of superclass members and of lower bounds. -/
  | superRef
  /-- A string literal with its embedded expressions. -/
  | text (parts : List Code)
  /-- A field of an object or class. -/
  | field (parts : List Code)
  /-- A call without a receiver. -/
  | call (method : String) (args : List Code)
  /-- A call on a receiver; `between` is what stands between the receiver and the name. -/
  | callOn (object : Code) (method : String) (between args : List Code)
  /-- A method reference, or a constructor reference when it names no method. -/
  | methodRef (target : Code) (method : Option String) (parts : List Code)
  /-- A construction; an inline class body is its last part. -/
  | creation (type : String) (parts : List Code)
  /-- The inline class body of a construction or an enum constant. -/
  | inlineBody (members : List Code)
  /-- A named type. -/
  | type (name : Word) (typeParams : List TypeParam) (header members : List Code)
  /-- A method. -/
  | method (head : Head) (header body : List Code)
  /-- A constructor; the explicit constructor call that opens its body stands apart from the rest. -/
  | ctor (head : Head) (header : List Code) (redirect : Option RedirectKind)
      (redirectParts body : List Code)
  /-- An enum constant; its inline class body is its last part. -/
  | constant (name : Word) (span : Span) (header parts : List Code)
  /-- An empty statement. -/
  | semicolon
  /-- Anything else. -/
  | group (parts : List Code)
  deriving Repr

namespace Code

/-- The pieces that a piece of code is directly made of, in order. -/
def parts : Code → List Code
  | .name _ | .thisRef | .superRef | .semicolon => []
  | .text parts | .field parts | .call _ parts | .creation _ parts | .inlineBody parts
  | .group parts => parts
  | .callOn object _ between args => object :: (between ++ args)
  | .methodRef target _ parts => target :: parts
  | .type _ _ header members => header ++ members
  | .method _ header body => header ++ body
  | .ctor _ header _ redirectParts body => header ++ (redirectParts ++ body)
  | .constant _ _ header parts => header ++ parts

/-- The annotations, types and parameters of a declaration. -/
def header : Code → List Code
  | .type _ _ header _ | .method _ header _ | .ctor _ header _ _ _ | .constant _ _ header _ => header
  | _ => []

/-- What stands inside a type or a declaration, behind its header. -/
def body : Code → List Code
  | .inlineBody members | .type _ _ _ members => members
  | .method _ _ body => body
  | .ctor _ _ _ redirectParts body => redirectParts ++ body
  | .constant _ _ _ parts => parts
  | _ => []

/-- The kind and head of the method or constructor that a piece of code is. -/
def callable? : Code → Option (DeclKind × Head)
  | .method head _ _ => some (.method, head)
  | .ctor head _ _ _ _ => some (.constructor, head)
  | _ => none

/-- The code neither opens a type body nor declares anything: it is no more than its parts, and perhaps a
reference. -/
def isPlain : Code → Bool
  | .inlineBody _ | .type .. | .method .. | .ctor .. | .constant .. => false
  | _ => true

/-- The code is an empty statement. -/
def isSemicolon : Code → Bool
  | .semicolon => true
  | _ => false

/-- Only the empty statement is one. -/
@[simp]
theorem isSemicolon_iff {code : Code} : code.isSemicolon = true ↔ code = .semicolon := by
  cases code <;> simp [isSemicolon]

mutual

/-- The number of pieces in a piece of code, itself included. -/
def size : Code → Nat
  | .name _ | .thisRef | .superRef | .semicolon => 1
  | .text parts | .field parts | .call _ parts | .creation _ parts | .inlineBody parts
  | .group parts => 1 + sizeAll parts
  | .callOn object _ between args => 1 + (object.size + (sizeAll between + sizeAll args))
  | .methodRef target _ parts => 1 + (target.size + sizeAll parts)
  | .type _ _ header members => 1 + (sizeAll header + sizeAll members)
  | .method _ header body => 1 + (sizeAll header + sizeAll body)
  | .ctor _ header _ redirectParts body =>
    1 + (sizeAll header + (sizeAll redirectParts + sizeAll body))
  | .constant _ _ header parts => 1 + (sizeAll header + sizeAll parts)

/-- The number of pieces in pieces of code. -/
def sizeAll : List Code → Nat
  | [] => 0
  | code :: rest => code.size + sizeAll rest

end

@[simp]
theorem sizeAll_nil : sizeAll [] = 0 := rfl

@[simp]
theorem sizeAll_cons (code : Code) (rest : List Code) :
    sizeAll (code :: rest) = code.size + sizeAll rest := rfl

/-- Pieces of code are counted one after the other. -/
@[simp]
theorem sizeAll_append (first second : List Code) :
    sizeAll (first ++ second) = sizeAll first + sizeAll second := by
  induction first with
  | nil => simp
  | cons code rest ih => rw [List.cons_append, sizeAll_cons, sizeAll_cons, ih, Nat.add_assoc]

/-- A piece of code counts one more than its parts. -/
theorem size_eq (code : Code) : code.size = 1 + sizeAll code.parts := by
  cases code <;> simp [size, parts]

/-- The parts of a method or constructor are its header and its body. -/
theorem parts_of_callable {code : Code} {kind : DeclKind} {head : Head}
    (callable : code.callable? = some (kind, head)) : code.parts = code.header ++ code.body := by
  cases code <;> first | rfl | cases callable

end Code

/-- What the declarations at the top of a file can be; other code there declares nothing that can be
named from outside. -/
inductive TopLevel where
  /-- A package declaration. -/
  | package (name : String)
  /-- A type declaration. -/
  | type (name : Word) (typeParams : List TypeParam) (header members : List Code)
  deriving Repr

/-- A source file: its package and type declarations in order. -/
abbrev CompilationUnit : Type := List TopLevel

end DefectGraph.Java
