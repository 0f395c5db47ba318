import DefectGraph.Proofs.DeclaringCode
import DefectGraph.Proofs.References
import DefectGraph.Source.Reader
import Mathlib.Data.List.Forall2

/-!
# The references that a declaration keeps

An explicit constructor call belongs to its constructor alone: the declarations around the constructor
have the other references of its body among theirs, and not that one.

## Main Definitions

* `Declaration.RedirectsFirst` - only a constructor has an explicit constructor call, and it comes first.
* `Declaration.ComesFrom` - a declaration has the references of a piece of code, and no others.

## Main Statements

* `declaredReferences_eq` - a declaration has its own explicit constructor call, and what a walk over the
  code inside collects.
* `Tree.comesFrom_ofUnit` - the declarations of a file come from its declaring pieces of code, in order.
* `Tree.redirectsFirst_of_source` - explicit constructor calls stand in front of the other references.
* `Graph.not_breaksOff_of_method` - a method never breaks off.

## Design Notes

`Declaration.ComesFrom` compares references only after they have been moved to one type body. The numbers of
type bodies depend on what stands in front of a declaration in its file, and the references that a piece of
code holds do not.
-/

namespace DefectGraph.Java

open DefectGraph.Source (DeclKind Reference Span)

/-- What a piece of code declares: the kind, the name and the extent. -/
def Code.heading? : Code → Option (DeclKind × String × Span)
  | .method head _ _ => some (.method, head.name, head.span)
  | .ctor head _ _ _ _ => some (.constructor, head.name, head.span)
  | .constant word span _ _ => some (.enumConstant, word, span)
  | _ => none

/-- The explicit constructor call that a piece of code opens with, in a type of the given name. It is the
last statement when nothing but empty statements follows. -/
def Code.opening (type : String) : Code → List Reference
  | .ctor _ _ (some kind) _ body => [.redirect kind type (body.all Code.isSemicolon)]
  | _ => []

/-- The code whose references belong to what a piece of code declares: all of a constant, and the body of a
method or constructor. -/
def Code.inside : Code → List Code
  | .method _ _ body => body
  | .ctor _ _ _ redirectParts body => redirectParts ++ body
  | .constant _ _ header parts => header ++ parts
  | _ => []

end DefectGraph.Java

namespace DefectGraph.Source

open DefectGraph.Java (Code CompilationUnit declarationsAll declarationsAll_append
  declarationsAll_singleton declarationsOf)

/-! ### Explicit constructor calls -/

/-- Only a constructor has an explicit constructor call among its references, one at most, in front of the
others. -/
def Declaration.RedirectsFirst (d : Declaration) : Prop :=
  ∃ redirect rest, d.references = redirect ++ rest ∧ (∀ ref ∈ rest, ref.isRedirect = false) ∧
    (redirect = [] ∨ d.kind = .constructor ∧ ∃ kind type isLast,
      redirect = [.redirect kind type isLast])

/-- A declaration that is no constructor has no explicit constructor call among its references. -/
theorem Declaration.RedirectsFirst.plain {d : Declaration} (first : d.RedirectsFirst)
    (other : d.kind ≠ .constructor) : ∀ ref ∈ d.references, ref.isRedirect = false := by
  obtain ⟨redirect, rest, split, plain, rfl | ⟨constructor, _⟩⟩ := first
  · rw [split]
    exact plain
  · exact absurd constructor other

/-- The explicit constructor calls in front of other references can be told apart from them. -/
theorem filter_append_plain {first rest : List Reference}
    (redirects : ∀ ref ∈ first, ref.isRedirect = true) (plain : ∀ ref ∈ rest, ref.isRedirect = false) :
    (first ++ rest).filter Reference.isRedirect = first ∧
      (first ++ rest).filter (fun ref => !ref.isRedirect) = rest := by
  have none : first.filter (fun ref => !ref.isRedirect) = [] := by
    rw [List.filter_eq_nil_iff]
    intro ref present
    simp [redirects ref present]
  have none' : rest.filter Reference.isRedirect = [] := by
    rw [List.filter_eq_nil_iff]
    intro ref present
    simp [plain ref present]
  have all : rest.filter (fun ref => !ref.isRedirect) = rest := by
    rw [List.filter_eq_self]
    intro ref present
    simp [plain ref present]
  rw [List.filter_append, List.filter_append, List.filter_eq_self.mpr redirects, none, none', all]
  exact ⟨List.append_nil first, List.nil_append rest⟩

/-! ### Declarations and their code -/

/-- The number of the first piece of code inside a declaring piece of the given number. -/
def insideAt (node : Nat) : Code → Nat
  | .constant .. => node + 1
  | code => node + 1 + Code.sizeAll code.header

/-- A declaration has the explicit constructor call that its code opens with, and what a walk over the code
inside collects. -/
theorem declaredReferences_eq (bodies : Bodies) (type : String) (scope : ScopeId) (node : Nat)
    (code : Code) :
    declaredReferences bodies type scope node code =
      code.opening type ++ collectAll bodies scope (insideAt node code) code.inside := by
  cases code with
  | ctor head header redirect redirectParts body =>
    rw [Code.inside, collectAll_append]
    cases redirect with
    | none => rfl
    | some kind => rfl
  | constant name span header parts =>
    rw [Code.inside, collectAll_append]
    rfl
  | _ => rfl

/-- The opening of a constructor is an explicit constructor call. -/
theorem isRedirect_of_mem_opening {type : String} {code : Code} {ref : Reference}
    (present : ref ∈ code.opening type) : ref.isRedirect = true := by
  unfold Code.opening at present
  split at present
  · cases List.mem_singleton.mp present
    rfl
  · cases present

namespace Declaration

/-- The declaration comes from the code: it has the code's own explicit constructor call, and behind it the
references of the code inside, each in the type body it stands in. -/
structure ComesFrom (code : Code) (d : Declaration) : Prop where
  heading : code.heading? = some (d.kind, d.name, d.span)
  references : ∃ type rest, d.references = code.opening type ++ rest ∧
    ∀ scope, rest.map (Reference.inBody scope) = referencesAll scope code.inside

/-- No explicit constructor call is among the references behind the opening. -/
theorem ComesFrom.exists_plain {code : Code} {d : Declaration} (comes : d.ComesFrom code) :
    ∃ type rest, d.references = code.opening type ++ rest ∧
      (∀ scope, rest.map (Reference.inBody scope) = referencesAll scope code.inside) ∧
      ∀ ref ∈ rest, ref.isRedirect = false := by
  obtain ⟨type, rest, split, refers⟩ := comes.references
  refine ⟨type, rest, split, refers, fun ref present => ?_⟩
  -- Moved to another type body, the reference is one of the code, and those are all plain.
  have moved : ref.inBody 0 ∈ referencesAll 0 code.inside := refers 0 ▸ List.mem_map_of_mem present
  rw [← ref.isRedirect_inBody 0]
  exact isRedirect_of_mem_referencesAll 0 _ _ moved

/-- A declaration has its explicit constructor call in front of all other references. -/
theorem ComesFrom.redirectsFirst {code : Code} {d : Declaration} (comes : d.ComesFrom code) :
    d.RedirectsFirst := by
  obtain ⟨type, rest, split, -, plain⟩ := comes.exists_plain
  refine ⟨code.opening type, rest, split, plain, ?_⟩
  unfold Code.opening
  split
  · rename_i head header kind parts body
    have constructor : DeclKind.constructor = d.kind :=
      congrArg Prod.fst (Option.some.inj comes.heading)
    exact Or.inr ⟨constructor.symm, kind, type, body.all Code.isSemicolon, rfl⟩
  · exact Or.inl rfl

/-- A declaration with the heading and the references of a piece of code comes from it. -/
theorem ComesFrom.of_references {code : Code} {d : Declaration} {p : Place} {n m : Count}
    (heading : code.heading? = some (d.kind, d.name, d.span))
    (references : d.references = p.referencesOf n m code) : d.ComesFrom code := by
  refine ⟨heading, p.typeName, _, references.trans (declaredReferences_eq _ _ _ _ code), ?_⟩
  intro scope
  exact inBody_collectAll scope _ _ _ _

/-- The walk finds a declaration for every declaring piece of code, in order. -/
theorem comesFrom_invariant : WalkInvariant fun _ _ codes o _ =>
    List.Forall₂ ComesFrom (declarationsAll codes) o.decls where
  nil _ _ := .nil
  append first second := by
    rw [declarationsAll_append]
    exact List.rel_append first second
  plain isPlain parts := by
    rw [declarationsAll_singleton, Code.declarations_of_isPlain isPlain]
    exact parts
  inlineBody members := by
    rw [declarationsAll_singleton]
    exact members
  namedType _ _ _ members := by
    rw [declarationsAll_singleton]
    exact members
  callable {p n m code inside kind head} callable inner := by
    rw [declarationsAll_singleton, Code.declarations_of_callable callable]
    refine .cons (.of_references ?_ rfl) inner
    cases code with
    | method | ctor =>
      cases callable
      rfl
    | _ => cases callable
  constant _ _ _ inner := by
    rw [declarationsAll_singleton]
    exact .cons (.of_references rfl rfl) inner

/-- So it is for what stands at the top of a file. -/
theorem comesFrom_unitInvariant : UnitInvariant fun _ unit o _ =>
    List.Forall₂ ComesFrom (declarationsOf unit) o.decls where
  nil _ := .nil
  package _ rest := rest
  type := by
    intro n m k members rest inside others package name typeParams header found later
    have walked := comesFrom_invariant.outlineAll (.top package n.scopes name typeParams)
      (n.enter header) members
    rw [found] at walked
    exact List.rel_append walked later

end Declaration

namespace Tree

/-- The declarations of a file come from its declaring pieces of code, in order. -/
theorem comesFrom_ofUnit (source : String) (unit : CompilationUnit) :
    List.Forall₂ Declaration.ComesFrom (declarationsOf unit) (Tree.ofUnit source unit).decls :=
  (Declaration.comesFrom_unitInvariant.outlineUnit "" .start unit).choose_spec

/-- The declaration of a number comes from the declaring piece of code of that number. -/
theorem exists_comesFrom {source : String} {unit : CompilationUnit} {id : DeclId} {d : Declaration}
    (found : (Tree.ofUnit source unit).decl? id = some d) :
    ∃ code, (declarationsOf unit)[id]? = some code ∧ d.ComesFrom code := by
  obtain ⟨lengths, each⟩ := List.forall₂_iff_get.mp (comesFrom_ofUnit source unit)
  obtain ⟨bound, rfl⟩ := List.getElem?_eq_some_iff.mp found
  have declaring : id < (declarationsOf unit).length := lengths ▸ bound
  exact ⟨_, List.getElem?_eq_getElem declaring, each id declaring bound⟩

/-- In every file, explicit constructor calls stand in front of the references of their constructors. -/
theorem redirectsFirst_of_source {source : String} {t : Tree}
    (isTree : Tree.ofSource? source = some t) : ∀ d ∈ t.decls, d.RedirectsFirst := by
  obtain ⟨unit, _, rfl⟩ := Option.map_eq_some_iff.mp isTree
  intro d present
  obtain ⟨code, _, comes⟩ := exists_comesFrom (decl?_id present)
  exact comes.redirectsFirst

end Tree

end DefectGraph.Source

namespace DefectGraph.Graph

open DefectGraph.Source

/-- A method never breaks off. -/
theorem not_breaksOff_of_method {tree : Tree} (first : ∀ d ∈ tree.decls, d.RedirectsFirst)
    {id : DeclId} {d : Declaration} (found : tree.decl? id = some d) (method : d.kind = .method) :
    ¬ BreaksOff tree id := by
  rintro ⟨type, present⟩
  rw [referencesOf, found] at present
  have other : d.kind ≠ .constructor := by
    rw [method]
    decide
  have plain := (first d (List.mem_of_getElem? found)).plain other _ present
  cases plain

end DefectGraph.Graph
