import DefectGraph.Name
import DefectGraph.Source.Collect
import DefectGraph.Source.Tree

/-!
# From code to declarations

One walk over the code of a file numbers its declarations and type bodies in the order in which they
start and builds the item tree. Behind the body of a declaration, when the type bodies inside have their
numbers, it has the references of the declaration collected.

## Main Definitions

* `Place` - what the walk knows about where it is.
* `Count` - how far the walk has come, with the type bodies that it has numbered.
* `Outline` - what the walk finds in a piece of code.
* `outline`, `outlineUnit` - the walk over a piece of code, and over a whole file.
* `WalkInvariant`, `UnitInvariant` - what the steps of the walk have to keep for whole walks to keep it.

## Main Statements

* `WalkInvariant.outline`, `WalkInvariant.outlineAll` - the walk over code keeps what its steps keep.
* `UnitInvariant.outlineUnit` - so it is for whole files.

## Design Notes

Types and declarations are looked for in bodies only. The header of a declaration (its annotations,
types and parameters) is a part of the code around it as far as references go, and holds no declarations.

An invariant relates the place and the count before, the code, what is found in it and the count behind
it. It has one rule for each kind of step: code that is only made of parts, the two kinds of type bodies,
methods and constructors together, and enum constants. Every fact about trees of files is an instance, so
the recursion over the code is done once.
-/

namespace DefectGraph.Source

open DefectGraph.Java (Code Head TopLevel CompilationUnit)

/-! ### The walk -/

/-- Where the walk is. -/
structure Place where
  /-- The type body around the place. -/
  scope : ScopeId
  /-- The binary name of that type body. -/
  binaryName : String
  /-- The simple name of the nearest named type. -/
  typeName : String
  /-- The nearest method or constructor around the place. -/
  enclosing : Option DeclId
  /-- The type parameters in scope, the innermost ones last. -/
  typeParams : List TypeParam

/-- How far the walk has come. -/
structure Count where
  /-- The declarations so far. -/
  decls : Nat
  /-- The type bodies so far. -/
  scopes : Nat
  /-- The inline class bodies so far that stand directly in the current type body. -/
  inlineBodies : Nat
  /-- The pieces of code so far. -/
  nodes : Nat
  /-- The type bodies so far, by the code that opens them. -/
  bodies : Bodies

namespace Count

/-- Before the first piece of code of a file. -/
def start : Count := ⟨0, 0, 0, 0, []⟩

/-- Behind the front of a piece of code, before its parts. -/
def pass (n : Count) : Count := { n with nodes := n.nodes + 1 }

/-- Inside a type body, behind the header of the type. -/
def enter (n : Count) (header : List Code) : Count :=
  { decls := n.decls
    scopes := n.scopes + 1
    inlineBodies := 0
    nodes := n.nodes + 1 + Code.sizeAll header
    bodies := (n.nodes, n.scopes) :: n.bodies }

/-- Inside a declaration, behind its header. -/
def declare (n : Count) (header : List Code) : Count :=
  { n with decls := n.decls + 1, nodes := n.nodes + 1 + Code.sizeAll header }

end Count

/-- What the walk finds in a piece of code. -/
structure Outline where
  items : List Item
  decls : List Declaration
  scopes : List Scope

namespace Outline

/-- Nothing found. -/
def empty : Outline := ⟨[], [], []⟩

/-- What is found in one piece of code and then in the next. -/
def append (a b : Outline) : Outline :=
  ⟨a.items ++ b.items, a.decls ++ b.decls, a.scopes ++ b.scopes⟩

instance : Append Outline := ⟨append⟩

@[simp]
theorem items_append (a b : Outline) : (a ++ b).items = a.items ++ b.items := rfl

@[simp]
theorem decls_append (a b : Outline) : (a ++ b).decls = a.decls ++ b.decls := rfl

@[simp]
theorem scopes_append (a b : Outline) : (a ++ b).scopes = a.scopes ++ b.scopes := rfl

/-- The outline of a type body, from the outline of its members. -/
def body (scope : Scope) (item : List Item → Item) (members : Outline) : Outline :=
  ⟨[item members.items], members.decls,
    { scope with callables := callablesIn members.decls scope.id } :: members.scopes⟩

/-- The outline of a declaration, from what is inside its body. -/
def declaration (d : Declaration) (item : List Item → Item) (inside : Outline) : Outline :=
  ⟨[item inside.items], d :: inside.decls, inside.scopes⟩

end Outline

/-- The place inside a type body directly within this place. -/
def Place.enter (p : Place) (scope : ScopeId) (binaryName typeName : String)
    (typeParams : List TypeParam) : Place :=
  { p with scope, binaryName, typeName, typeParams := p.typeParams ++ typeParams }

/-- The place inside the body of a declaration directly at this place. -/
def Place.within (p : Place) (decl : DeclId) (typeParams : List TypeParam) : Place :=
  { p with enclosing := some decl, typeParams := p.typeParams ++ typeParams }

/-- The place directly inside an inline class body at this place. -/
def Place.enterInline (p : Place) (scope : ScopeId) (ordinal : Nat) : Place :=
  p.enter scope (p.binaryName ++ "$" ++ toString ordinal) p.typeName []

/-- The place directly inside a named type at this place. -/
def Place.enterNamed (p : Place) (scope : ScopeId) (name : String) (typeParams : List TypeParam) :
    Place :=
  p.enter scope (p.binaryName ++ "$" ++ name) name typeParams

/-- The declaration of a method or constructor at a place. -/
def callableAt (p : Place) (id : DeclId) (kind : DeclKind) (head : Head)
    (refs : List Reference) : Declaration :=
  { id, kind
    name := head.name
    params := head.params.map (FormalParam.bindTypeVariable (p.typeParams ++ head.typeParams))
    enclosing := p.enclosing
    scope := p.scope
    owner := p.binaryName
    span := head.span
    references := refs }

/-- The declaration of an enum constant at a place. -/
def constantAt (p : Place) (id : DeclId) (name : String) (span : Span) (refs : List Reference) :
    Declaration :=
  { id, kind := .enumConstant, name, params := [], enclosing := p.enclosing, scope := p.scope,
    owner := p.binaryName, span, references := refs }

/-- The references of what a piece of code at a place declares, when the walk has come so far. -/
def Place.referencesOf (p : Place) (n m : Count) (code : Code) : List Reference :=
  declaredReferences m.bodies p.typeName p.scope n.nodes code

mutual

/-- What a piece of code holds, and how far the walk comes in it. -/
def outline (p : Place) (n : Count) : Code → Outline × Count
  | .name _ | .thisRef | .superRef | .semicolon => (.empty, n.pass)
  | .text parts | .field parts | .call _ parts | .creation _ parts | .group parts =>
    outlineAll p n.pass parts
  | .callOn object _ between args =>
    let (a, m) := outline p n.pass object
    let (b, m) := outlineAll p m between
    let (c, m) := outlineAll p m args
    (a ++ (b ++ c), m)
  | .methodRef target _ parts =>
    let (a, m) := outline p n.pass target
    let (b, m) := outlineAll p m parts
    (a ++ b, m)
  | .inlineBody members =>
    let ordinal := n.inlineBodies + 1
    let place := p.enterInline n.scopes ordinal
    let (inside, m) := outlineAll place (n.enter []) members
    let scope : Scope := ⟨n.scopes, none, some p.scope, place.binaryName, []⟩
    (Outline.body scope (.anonymous n.scopes) inside, { m with inlineBodies := ordinal })
  | .type name typeParams header members =>
    let place := p.enterNamed n.scopes name typeParams
    let (inside, m) := outlineAll place (n.enter header) members
    let scope : Scope := ⟨n.scopes, some name, some p.scope, place.binaryName, []⟩
    (Outline.body scope (.type n.scopes name true) inside, { m with inlineBodies := n.inlineBodies })
  | .method head header body =>
    let (inside, m) := outlineAll (p.within n.decls head.typeParams) (n.declare header) body
    -- Only now do the type bodies inside have their numbers.
    let refs := p.referencesOf n m (.method head header body)
    (Outline.declaration (callableAt p n.decls .method head refs) (.callable n.decls) inside, m)
  | .ctor head header redirect redirectParts body =>
    let place := p.within n.decls head.typeParams
    let (a, m) := outlineAll place (n.declare header) redirectParts
    let (b, m) := outlineAll place m body
    let refs := p.referencesOf n m (.ctor head header redirect redirectParts body)
    (Outline.declaration (callableAt p n.decls .constructor head refs) (.callable n.decls) (a ++ b), m)
  | .constant name span header parts =>
    let (inside, m) := outlineAll p (n.declare header) parts
    let refs := p.referencesOf n m (.constant name span header parts)
    (Outline.declaration (constantAt p n.decls name span refs) (.enumConstant n.decls) inside, m)

/-- What pieces of code hold, one after the other. -/
def outlineAll (p : Place) (n : Count) : List Code → Outline × Count
  | [] => (.empty, n)
  | code :: rest =>
    let (a, m) := outline p n code
    let (b, m) := outlineAll p m rest
    (a ++ b, m)

end

/-! ### Reasoning about the walk -/

/-- A relation between a place, the count before, pieces of code, what the walk finds in them and the count
behind them that every step of the walk keeps. -/
structure WalkInvariant (Holds : Place → Count → List Code → Outline → Count → Prop) : Prop where
  nil : ∀ (p : Place) (n : Count), Holds p n [] .empty n
  append : ∀ {p : Place} {n m k : Count} {first second : List Code} {a b : Outline},
    Holds p n first a m → Holds p m second b k → Holds p n (first ++ second) (a ++ b) k
  plain : ∀ {p : Place} {n m : Count} {code : Code} {o : Outline}, code.isPlain = true →
    Holds p n.pass code.parts o m → Holds p n [code] o m
  inlineBody : ∀ {p : Place} {n m : Count} {members : List Code} {inside : Outline},
    Holds (p.enterInline n.scopes (n.inlineBodies + 1)) (n.enter []) members inside m →
    Holds p n [.inlineBody members]
      (.body ⟨n.scopes, none, some p.scope,
        (p.enterInline n.scopes (n.inlineBodies + 1)).binaryName, []⟩ (.anonymous n.scopes) inside)
      { m with inlineBodies := n.inlineBodies + 1 }
  namedType : ∀ {p : Place} {n m : Count} {members : List Code} {inside : Outline} (name : Java.Word)
      (typeParams : List TypeParam) (header : List Code),
    Holds (p.enterNamed n.scopes name typeParams) (n.enter header) members inside m →
    Holds p n [.type name typeParams header members]
      (.body ⟨n.scopes, some name.text, some p.scope,
        (p.enterNamed n.scopes name typeParams).binaryName, []⟩ (.type n.scopes name true) inside)
      { m with inlineBodies := n.inlineBodies }
  callable : ∀ {p : Place} {n m : Count} {code : Code} {inside : Outline} {kind : DeclKind}
      {head : Head}, code.callable? = some (kind, head) →
    Holds (p.within n.decls head.typeParams) (n.declare code.header) code.body inside m →
    Holds p n [code]
      (.declaration (callableAt p n.decls kind head (p.referencesOf n m code)) (.callable n.decls)
        inside) m
  /-- A constant is no enclosing declaration for what is inside it. -/
  constant : ∀ {p : Place} {n m : Count} {parts : List Code} {inside : Outline} (name : Java.Word)
      (span : Span) (header : List Code),
    Holds p (n.declare header) parts inside m →
    Holds p n [.constant name span header parts]
      (.declaration
        (constantAt p n.decls name span (p.referencesOf n m (.constant name span header parts)))
        (.enumConstant n.decls) inside) m

namespace WalkInvariant

variable {Holds : Place → Count → List Code → Outline → Count → Prop}

mutual

/-- What every step of the walk keeps, the walk over a piece of code keeps. -/
theorem outline (invariant : WalkInvariant Holds) (p : Place) (n : Count) : ∀ code : Code,
    Holds p n [code] (Source.outline p n code).1 (Source.outline p n code).2
  | .name _ | .thisRef | .superRef | .semicolon => invariant.plain rfl (invariant.nil p n.pass)
  | .text parts | .field parts | .call _ parts | .creation _ parts | .group parts =>
    invariant.plain rfl (invariant.outlineAll p n.pass parts)
  | .callOn object _ between args =>
    invariant.plain rfl (invariant.append (invariant.outline p n.pass object)
      (invariant.append (invariant.outlineAll p _ between) (invariant.outlineAll p _ args)))
  | .methodRef target _ parts =>
    invariant.plain rfl
      (invariant.append (invariant.outline p n.pass target) (invariant.outlineAll p _ parts))
  | .inlineBody members => invariant.inlineBody (invariant.outlineAll _ _ members)
  | .type name typeParams header members =>
    invariant.namedType name typeParams header (invariant.outlineAll _ _ members)
  | .method _ _ body => invariant.callable rfl (invariant.outlineAll _ _ body)
  | .ctor _ _ _ redirectParts body =>
    invariant.callable rfl
      (invariant.append (invariant.outlineAll _ _ redirectParts) (invariant.outlineAll _ _ body))
  | .constant name span header parts =>
    invariant.constant name span header (invariant.outlineAll p _ parts)

/-- What every step of the walk keeps, the walk over pieces of code keeps. -/
theorem outlineAll (invariant : WalkInvariant Holds) (p : Place) (n : Count) : ∀ codes : List Code,
    Holds p n codes (Source.outlineAll p n codes).1 (Source.outlineAll p n codes).2
  | [] => invariant.nil p n
  | code :: rest =>
    invariant.append (invariant.outline p n code) (invariant.outlineAll p _ rest)

end

end WalkInvariant

/-! ### Whole files -/

/-- The place directly inside a type at the top of a file. -/
def Place.top (package : String) (scope : ScopeId) (name : String) (typeParams : List TypeParam) :
    Place :=
  ⟨scope, Name.join [package, name] '.', name, none, typeParams⟩

/-- What a type at the top of a file holds. -/
def outlineTop (package : String) (n : Count) (name : String) (typeParams : List TypeParam)
    (header members : List Code) : Outline × Count :=
  let place := Place.top package n.scopes name typeParams
  let (inside, m) := outlineAll place (n.enter header) members
  let scope : Scope := ⟨n.scopes, some name, none, place.binaryName, []⟩
  (Outline.body scope (.type n.scopes name false) inside, m)

/-- What the declarations at the top of a file hold, and the package that is declared last. A type
belongs to the package declared before it. -/
def outlineUnit (package : String) (n : Count) : CompilationUnit → Outline × String
  | [] => (.empty, package)
  | .package name :: rest => outlineUnit name n rest
  | .type name typeParams header members :: rest =>
    let (a, m) := outlineTop package n name typeParams header members
    let (b, last) := outlineUnit package m rest
    (a ++ b, last)

/-- A relation between the count before, what stands at the top of a file, what the walk finds in it and the
count behind it that the walk keeps from one thing at the top to the next. -/
structure UnitInvariant (Holds : Count → CompilationUnit → Outline → Count → Prop) : Prop where
  nil : ∀ n : Count, Holds n [] .empty n
  package : ∀ {n m : Count} {rest : CompilationUnit} {o : Outline} (name : String),
    Holds n rest o m → Holds n (.package name :: rest) o m
  type : ∀ {n m k : Count} {members : List Code} {rest : CompilationUnit} {inside others : Outline}
      (package : String) (name : Java.Word) (typeParams : List TypeParam) (header : List Code),
    outlineAll (.top package n.scopes name typeParams) (n.enter header) members = (inside, m) →
    Holds m rest others k →
    Holds n (.type name typeParams header members :: rest)
      (.body ⟨n.scopes, some name.text, none, Name.join [package, name] '.', []⟩
        (.type n.scopes name false) inside ++ others) k

/-- What the walk keeps from one thing at the top of a file to the next holds of the file. -/
theorem UnitInvariant.outlineUnit {Holds : Count → CompilationUnit → Outline → Count → Prop}
    (invariant : UnitInvariant Holds) (package : String) (n : Count) (unit : CompilationUnit) :
    ∃ m : Count, Holds n unit (Source.outlineUnit package n unit).1 m := by
  induction unit generalizing package n with
  | nil => exact ⟨n, invariant.nil n⟩
  | cons first rest ih =>
    cases first with
    | package name =>
      obtain ⟨m, others⟩ := ih name n
      exact ⟨m, invariant.package name others⟩
    | type name typeParams header members =>
      obtain ⟨m, others⟩ := ih package (outlineTop package n name typeParams header members).2
      exact ⟨m, invariant.type package name typeParams header rfl others⟩

end DefectGraph.Source
