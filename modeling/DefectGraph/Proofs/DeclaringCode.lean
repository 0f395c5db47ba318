import DefectGraph.Source.Outline

/-!
# The code behind a declaration

The walk over code finds one declaration for every piece of code that declares a method, a constructor or
an enum constant, in the order in which they start. What it collects for the declaration are the
references of the code inside, and the type body that each of them stands in.

## Main Definitions

* `Code.declarations` - the declaring pieces of a piece of code.
* `references` - the references of a piece of code as if all of it stood in one type body.
* `Reference.inBody` - a reference as it would be in another type body.

## Main Statements

* `isRedirect_of_mem_referencesAll` - the references in code hold no explicit constructor call.
* `inBody_collect` - but for the type bodies they stand in, a walk collects the references of the code.

## Design Notes

`references` says which references code has without saying how they are collected: it knows neither of
numbers nor of a table of type bodies. That `collect` finds these and no others is one fact for all tables
and all numbers; where a reference stands is a fact about the table, and is no matter here.
-/

namespace DefectGraph.Java

open DefectGraph.Source (DeclKind)

mutual

/-- The pieces of code that declare a method, a constructor or an enum constant, each one before those
inside it. -/
def Code.declarations : Code → List Code
  | .name _ | .thisRef | .superRef | .semicolon => []
  | .text parts | .field parts | .group parts | .creation _ parts | .inlineBody parts =>
    declarationsAll parts
  | .call _ args => declarationsAll args
  | .callOn object _ between args =>
    object.declarations ++ declarationsAll between ++ declarationsAll args
  | .methodRef target _ parts => target.declarations ++ declarationsAll parts
  | .type _ _ _ members => declarationsAll members
  | .method head header body => .method head header body :: declarationsAll body
  | .ctor head header redirect redirectParts body =>
    .ctor head header redirect redirectParts body ::
      (declarationsAll redirectParts ++ declarationsAll body)
  | .constant name span header parts => .constant name span header parts :: declarationsAll parts

/-- The declaring pieces of several pieces of code. -/
def declarationsAll : List Code → List Code
  | [] => []
  | code :: rest => code.declarations ++ declarationsAll rest

end

/-- The declaring code of two pieces stands one after the other. -/
@[simp]
theorem declarationsAll_append (first second : List Code) :
    declarationsAll (first ++ second) = declarationsAll first ++ declarationsAll second := by
  induction first with
  | nil => rfl
  | cons code rest ih => rw [List.cons_append, declarationsAll, declarationsAll, ih, List.append_assoc]

@[simp]
theorem declarationsAll_singleton (code : Code) : declarationsAll [code] = code.declarations :=
  List.append_nil _

/-- Plain code declares what its parts declare. -/
theorem Code.declarations_of_isPlain {code : Code} (plain : code.isPlain = true) :
    code.declarations = declarationsAll code.parts := by
  cases code with
  | inlineBody | type | method | ctor | constant => cases plain
  | callOn object method between args =>
    simp only [declarations, parts, declarationsAll, declarationsAll_append, List.append_assoc]
  | _ => rfl

/-- A method or constructor is declared before what its body declares. -/
theorem Code.declarations_of_callable {code : Code} {kind : DeclKind} {head : Head}
    (callable : code.callable? = some (kind, head)) :
    code.declarations = code :: declarationsAll code.body := by
  cases code with
  | method => rfl
  | ctor => simp only [declarations, body, declarationsAll_append]
  | _ => cases callable

/-- The declaring pieces of a file. -/
def declarationsOf : CompilationUnit → List Code
  | [] => []
  | .package _ :: rest => declarationsOf rest
  | .type _ _ _ members :: rest => declarationsAll members ++ declarationsOf rest

end DefectGraph.Java

namespace DefectGraph.Source

open DefectGraph.Java (Code CompilationUnit declarationsAll declarationsOf)

/-! ### The references of code -/

mutual

/-- The references of a piece of code in the type body of a number. -/
def references (scope : ScopeId) : Code → List Reference
  | .call method args => ownReference scope (.call method args) ++ referencesAll scope args
  | .callOn object method between args =>
    ownReference scope (.callOn object method between args) ++ references scope object
      ++ referencesAll scope between ++ referencesAll scope args
  | .methodRef target method parts =>
    ownReference scope (.methodRef target method parts) ++ references scope target
      ++ referencesAll scope parts
  | .creation type parts => ownReference scope (.creation type parts) ++ referencesAll scope parts
  | .name _ | .thisRef | .superRef | .semicolon => []
  | .text parts | .field parts | .group parts | .inlineBody parts => referencesAll scope parts
  | .type _ _ header members => referencesAll scope header ++ referencesAll scope members
  | .method _ header body => referencesAll scope header ++ referencesAll scope body
  | .ctor _ header _ redirectParts body =>
    referencesAll scope header ++ referencesAll scope redirectParts ++ referencesAll scope body
  | .constant _ _ header parts => referencesAll scope header ++ referencesAll scope parts

/-- The references of pieces of code, in order. -/
def referencesAll (scope : ScopeId) : List Code → List Reference
  | [] => []
  | code :: rest => references scope code ++ referencesAll scope rest

end

/-- No piece of code is an explicit constructor call by itself. -/
theorem isRedirect_of_mem_ownReference {scope : ScopeId} {code : Code} :
    ∀ ref ∈ ownReference scope code, ref.isRedirect = false := by
  intro ref present
  unfold ownReference at present
  split at present
  · cases List.mem_singleton.mp present
    rfl
  · cases List.mem_singleton.mp present
    rfl
  · cases List.mem_singleton.mp present
    rfl
  · cases List.mem_singleton.mp present
    rfl
  · cases present

mutual

/-- A walk over code counts no explicit constructor calls. -/
theorem isRedirect_of_mem_references (scope : ScopeId) :
    ∀ code : Code, ∀ ref ∈ references scope code, ref.isRedirect = false
  | .name _ | .thisRef | .superRef | .semicolon => by simp [references]
  | .text parts | .field parts | .group parts | .inlineBody parts =>
    isRedirect_of_mem_referencesAll scope parts
  | .call _ args => by
    rw [references, List.forall_mem_append]
    exact ⟨isRedirect_of_mem_ownReference, isRedirect_of_mem_referencesAll scope args⟩
  | .callOn object _ between args => by
    rw [references, List.forall_mem_append, List.forall_mem_append, List.forall_mem_append]
    exact ⟨⟨⟨isRedirect_of_mem_ownReference, isRedirect_of_mem_references scope object⟩,
      isRedirect_of_mem_referencesAll scope between⟩, isRedirect_of_mem_referencesAll scope args⟩
  | .methodRef target _ parts => by
    rw [references, List.forall_mem_append, List.forall_mem_append]
    exact ⟨⟨isRedirect_of_mem_ownReference, isRedirect_of_mem_references scope target⟩,
      isRedirect_of_mem_referencesAll scope parts⟩
  | .creation _ parts => by
    rw [references, List.forall_mem_append]
    exact ⟨isRedirect_of_mem_ownReference, isRedirect_of_mem_referencesAll scope parts⟩
  | .type _ _ first second | .method _ first second | .constant _ _ first second => by
    rw [references, List.forall_mem_append]
    exact ⟨isRedirect_of_mem_referencesAll scope first, isRedirect_of_mem_referencesAll scope second⟩
  | .ctor _ header _ redirectParts body => by
    rw [references, List.forall_mem_append, List.forall_mem_append]
    exact ⟨⟨isRedirect_of_mem_referencesAll scope header,
      isRedirect_of_mem_referencesAll scope redirectParts⟩, isRedirect_of_mem_referencesAll scope body⟩

/-- The references in code hold no explicit constructor call. -/
theorem isRedirect_of_mem_referencesAll (scope : ScopeId) :
    ∀ codes : List Code, ∀ ref ∈ referencesAll scope codes, ref.isRedirect = false
  | [] => by simp [referencesAll]
  | code :: rest => by
    rw [referencesAll, List.forall_mem_append]
    exact ⟨isRedirect_of_mem_references scope code, isRedirect_of_mem_referencesAll scope rest⟩

end

/-- The reference as it would be in another type body. -/
def Reference.inBody (scope : ScopeId) : Reference → Reference
  | .call name receiver argCount _ => .call name receiver argCount scope
  | .methodRef name target _ => .methodRef name target scope
  | .creation type hasBody => .creation type hasBody
  | .redirect kind type isLast => .redirect kind type isLast

/-- Moving a reference to another type body does not change its kind. -/
@[simp]
theorem Reference.isRedirect_inBody (scope : ScopeId) (ref : Reference) :
    (ref.inBody scope).isRedirect = ref.isRedirect := by
  cases ref <;> rfl

/-- The reference of a piece of code depends on the type body around it only for the scope it is given. -/
theorem inBody_ownReference (scope other : ScopeId) (code : Code) :
    (ownReference other code).map (Reference.inBody scope) = ownReference scope code := by
  unfold ownReference
  split <;> rfl

mutual

/-- But for the type bodies they stand in, a walk collects the references of the code. -/
theorem inBody_collect (scope : ScopeId) (bodies : Bodies) (other : ScopeId) (node : Nat) :
    ∀ code : Code,
      (collect bodies other node code).map (Reference.inBody scope) = references scope code
  | .name _ | .thisRef | .superRef | .semicolon => rfl
  | .text parts | .field parts | .group parts | .inlineBody parts =>
    inBody_collectAll scope bodies _ _ parts
  | .call _ args => by
    simp only [collect, references, List.map_append, inBody_ownReference,
      inBody_collectAll scope bodies _ _ args]
  | .callOn object _ between args => by
    simp only [collect, references, List.map_append, List.append_assoc, inBody_ownReference,
      inBody_collect scope bodies _ _ object, inBody_collectAll scope bodies _ _ between,
      inBody_collectAll scope bodies _ _ args]
  | .methodRef target _ parts => by
    simp only [collect, references, List.map_append, List.append_assoc, inBody_ownReference,
      inBody_collect scope bodies _ _ target, inBody_collectAll scope bodies _ _ parts]
  | .creation _ parts => by
    simp only [collect, references, List.map_append, inBody_ownReference,
      inBody_collectAll scope bodies _ _ parts]
  | .type _ _ header members => by
    simp only [collect, references, List.map_append, inBody_collectAll scope bodies _ _ header,
      inBody_collectAll scope bodies _ _ members]
  | .method _ header body => by
    simp only [collect, references, List.map_append, inBody_collectAll scope bodies _ _ header,
      inBody_collectAll scope bodies _ _ body]
  | .ctor _ header _ redirectParts body => by
    simp only [collect, references, redirectReference_none, List.nil_append, List.map_append,
      List.append_assoc, inBody_collectAll scope bodies _ _ header,
      inBody_collectAll scope bodies _ _ redirectParts, inBody_collectAll scope bodies _ _ body]
  | .constant _ _ header parts => by
    simp only [collect, references, List.map_append, inBody_collectAll scope bodies _ _ header,
      inBody_collectAll scope bodies _ _ parts]

/-- So does a walk over pieces of code. -/
theorem inBody_collectAll (scope : ScopeId) (bodies : Bodies) (other : ScopeId) (node : Nat) :
    ∀ codes : List Code,
      (collectAll bodies other node codes).map (Reference.inBody scope) = referencesAll scope codes
  | [] => rfl
  | code :: rest => by
    simp only [collectAll_cons, referencesAll, List.map_append, inBody_collect scope bodies _ _ code,
      inBody_collectAll scope bodies _ _ rest]

end

/-- A walk collects no explicit constructor call. -/
theorem isRedirect_of_mem_collectAll {bodies : Bodies} {scope : ScopeId} {node : Nat}
    {codes : List Code} {ref : Reference} (present : ref ∈ collectAll bodies scope node codes) :
    ref.isRedirect = false := by
  -- Moved to another type body, the reference is one of the code, and those are all plain.
  have moved : ref.inBody scope ∈ referencesAll scope codes := by
    rw [← inBody_collectAll scope bodies scope node codes]
    exact List.mem_map_of_mem present
  rw [← ref.isRedirect_inBody scope]
  exact isRedirect_of_mem_referencesAll scope codes _ moved

end DefectGraph.Source
