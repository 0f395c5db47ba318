import DefectGraph.Proofs.Arena
import DefectGraph.Proofs.References
import Mathlib.Data.List.Nodup
import Mathlib.Logic.Relation

/-!
# What a reference certainly means

A reference is resolved when exactly one method can be meant, as far as the file tells, and then it always
is. What can be meant depends on what stands in front of the name: nothing, `this`, or the name of a type.

## Main Definitions

* `Declaration.Accepts` - a call with so many arguments can mean the declaration.
* `Tree.Declares`, `Tree.DeclaresOnly` - a type body has a fitting method, and no other one.
* `Tree.Around` - a type body is another one or around it.
* `Tree.Nearest` - the innermost type body around a place that has a fitting method.
* `Tree.Means` - the method that a reference certainly means.

## Main Statements

* `Tree.uniqueIn?_eq_some_iff`, `Tree.typeNamed?_eq_some_iff` - what single lookups find.
* `Tree.inScopeChain?_eq_some_iff` - the walk outwards stops at the innermost body with a fitting method.
* `Tree.resolve_iff_means` - a reference is resolved to what it certainly means.

## Design Notes

Nothing here depends on how a tree was made. The links that a tree carries with it say that the type bodies
around a place are entered before it, which ends the walk outwards, and that a type body lists its members,
so that looking through the list is looking for a method.

`Means` has one rule for each form of reference that can be resolved. A form without a rule is never
resolved, and a body in which two methods fit ends the walk as one does in which a single one fits.
-/

namespace DefectGraph.Source

/-! ### Numbers of arguments -/

/-- A call with so many arguments can mean the declaration: it has so many parameters, or its last parameter
takes any number of arguments and the others are given. -/
def Declaration.Accepts (d : Declaration) (args : Nat) : Prop :=
  d.params.length = args ∨
    ∃ last, d.params.getLast? = some last ∧ last.varargs = true ∧ d.params.length - 1 ≤ args

/-- The test on the number of arguments says what it should. -/
@[simp]
theorem Declaration.acceptsArity_iff (d : Declaration) (args : Nat) :
    d.acceptsArity args = true ↔ d.Accepts args := by
  unfold acceptsArity Accepts
  cases d.params.getLast? with
  | none =>
    rw [beq_iff_eq, eq_comm]
    simp
  | some last =>
    by_cases varargs : last.varargs = true
    · simp only [varargs, if_true, decide_eq_true_iff, Option.some.injEq, exists_eq_left', true_and]
      omega
    · show (if last.varargs = true then _ else _) = true ↔ _
      rw [if_neg varargs, beq_iff_eq, eq_comm]
      simp [varargs]

/-! ### Methods of a type body -/

/-- The only member of a list without repetition is equal to all its members. -/
theorem only?_eq_some_iff_of_nodup {α : Type} {members : List α} (nodup : members.Nodup) (a : α) :
    only? members = some a ↔ a ∈ members ∧ ∀ b ∈ members, b = a := by
  rw [only?_eq_some_iff]
  constructor
  · rintro rfl
    simp
  · rintro ⟨present, all⟩
    match members, nodup, all with
    | [b], _, all => rw [all b List.mem_cons_self]
    | b :: c :: _, nodup, all =>
      have same : b = c := (all b (by simp)).trans (all c (by simp)).symm
      exact absurd (same ▸ List.mem_cons_self) (List.nodup_cons.mp nodup).1

namespace Tree

/-- The declaration is a method of the type body that has the name and accepts the number of arguments, if
there is one. -/
def Declares (t : Tree) (scope : ScopeId) (name : String) (args : Option Nat) (id : DeclId) : Prop :=
  ∃ d, t.decl? id = some d ∧ d.kind = .method ∧ d.scope = scope ∧ d.name = name ∧
    ∀ count ∈ args, d.Accepts count

/-- The declaration is the only such method of the type body. -/
def DeclaresOnly (t : Tree) (scope : ScopeId) (name : String) (args : Option Nat) (id : DeclId) : Prop :=
  t.Declares scope name args id ∧ ∀ other, t.Declares scope name args other → other = id

/-- A method fits by its name and the number of arguments. -/
theorem fits_iff (name : String) (args : Option Nat) (d : Declaration) :
    fits name args d = true ↔ d.kind = .method ∧ d.name = name ∧ ∀ count ∈ args, d.Accepts count := by
  simp only [fits, Bool.and_eq_true, beq_iff_eq, and_assoc]
  cases args <;> simp [Declaration.acceptsArity_iff]

section

variable {t : Tree}

/-- The candidates of a type body are its fitting methods. -/
theorem mem_candidates_iff {s : Scope} (present : s ∈ t.scopes) (name : String) (args : Option Nat)
    (id : DeclId) : id ∈ t.candidates name args s ↔ t.Declares s.id name args id := by
  rw [candidates, List.mem_filter, mem_callables_iff present, Option.any_eq_true]
  simp only [fits_iff]
  constructor
  · rintro ⟨⟨d, found, _, here⟩, e, found', method, fit⟩
    rw [found] at found'
    cases found'
    exact ⟨d, found, method, here, fit⟩
  · rintro ⟨d, found, method, here, fit⟩
    refine ⟨⟨d, found, ?_, here⟩, d, found, method, fit⟩
    rw [Declaration.isCallable, method]
    rfl

/-- No candidate counts twice. -/
theorem nodup_candidates {s : Scope} (present : s ∈ t.scopes) (name : String) (args : Option Nat) :
    (t.candidates name args s).Nodup :=
  ((callables_ordered present).imp fun less => Nat.ne_of_lt less).filter _

/-- A type body gives a method when it declares no other that fits. -/
theorem uniqueIn?_eq_some_iff {s : Scope} (present : s ∈ t.scopes) (name : String) (args : Option Nat)
    (id : DeclId) : t.uniqueIn? name args s = some id ↔ t.DeclaresOnly s.id name args id := by
  rw [uniqueIn?, only?_eq_some_iff_of_nodup (nodup_candidates present name args)]
  simp only [mem_candidates_iff present, DeclaresOnly]

/-- A type body with a member is there. -/
theorem Declares.exists_scope {scope : ScopeId} {name : String} {args : Option Nat} {id : DeclId}
    (declares : t.Declares scope name args id) : ∃ s ∈ t.scopes, s.id = scope := by
  obtain ⟨d, found, _, rfl, _⟩ := declares
  obtain ⟨s, there, _⟩ := exists_owner (List.mem_of_getElem? found)
  exact ⟨s, List.mem_of_getElem? there, id_of_scope? there⟩

/-- The only fitting method of the type body of a number. -/
theorem bind_uniqueIn?_eq_some_iff (scope : ScopeId) (name : String) (args : Option Nat) (id : DeclId) :
    (t.scope? scope).bind (t.uniqueIn? name args) = some id ↔ t.DeclaresOnly scope name args id := by
  rw [Option.bind_eq_some_iff]
  constructor
  · rintro ⟨s, found, unique⟩
    rw [uniqueIn?_eq_some_iff (List.mem_of_getElem? found), id_of_scope? found] at unique
    exact unique
  · intro only
    obtain ⟨s, present, rfl⟩ := only.1.exists_scope
    exact ⟨s, scope?_id present, (uniqueIn?_eq_some_iff present name args id).mpr only⟩

/-! ### Types by name -/

/-- The type body is the only one of a type of that simple name. -/
def OnlyNamed (t : Tree) (type : String) (scope : ScopeId) : Prop :=
  ∃ s ∈ t.scopes, s.id = scope ∧ s.name = some type ∧
    ∀ other ∈ t.scopes, other.name = some type → other = s

/-- A type is found by its name when there is no other of that name. -/
theorem typeNamed?_eq_some_iff (type : String) (s : Scope) :
    t.typeNamed? type = some s ↔
      s ∈ t.scopes ∧ s.name = some type ∧ ∀ other ∈ t.scopes, other.name = some type → other = s := by
  have nodup : (t.scopesNamed type).Nodup := by
    refine List.Nodup.filter _ (List.Nodup.of_map Scope.id ?_)
    rw [t.scopesNumbered]
    exact List.nodup_range
  rw [typeNamed?, only?_eq_some_iff_of_nodup nodup]
  simp [scopesNamed, and_assoc]

/-- The only fitting method of the only type of a name. -/
theorem bind_typeNamed?_eq_some_iff (type name : String) (args : Option Nat) (id : DeclId) :
    (t.typeNamed? type).bind (t.uniqueIn? name args) = some id ↔
      ∃ body, t.OnlyNamed type body ∧ t.DeclaresOnly body name args id := by
  simp only [Option.bind_eq_some_iff, typeNamed?_eq_some_iff]
  constructor
  · rintro ⟨s, ⟨present, named, alone⟩, unique⟩
    refine ⟨s.id, ⟨s, present, rfl, named, alone⟩, ?_⟩
    exact (uniqueIn?_eq_some_iff present name args id).mp unique
  · rintro ⟨_, ⟨s, present, rfl, named, alone⟩, only⟩
    exact ⟨s, ⟨present, named, alone⟩, (uniqueIn?_eq_some_iff present name args id).mpr only⟩

/-! ### The walk outwards -/

/-- The second type body is the first one or around it. -/
def Around (t : Tree) : ScopeId → ScopeId → Prop :=
  Relation.ReflTransGen fun scope up => t.parent? scope = some up

/-- The type body is the innermost one, from `scope` outwards, that has a fitting method. -/
structure Nearest (t : Tree) (scope : ScopeId) (name : String) (args : Option Nat) (body : ScopeId) :
    Prop where
  around : t.Around scope body
  declares : ∃ id, t.Declares body name args id
  /-- No body on the way to it has a fitting method. -/
  between : ∀ other, t.Around scope other → t.Around other body → other ≠ body →
    ¬ ∃ id, t.Declares other name args id

/-- The bodies around a place have smaller numbers. -/
theorem Around.le {scope body : ScopeId} (around : t.Around scope body) : body ≤ scope := by
  induction around with
  | refl => exact Nat.le_refl _
  | tail _ link ih => exact Nat.le_trans (Nat.le_of_lt (parent?_lt _ _ link)) ih

section

variable {scope : ScopeId} {name : String} {args : Option Nat} {body : ScopeId}

/-- A type body with a fitting method is the innermost one from itself outwards. -/
theorem nearest_of_declares (declares : ∃ id, t.Declares scope name args id) :
    t.Nearest scope name args body ↔ body = scope := by
  constructor
  · intro nearest
    by_contra other
    exact nearest.between scope .refl nearest.around (fun same => other same.symm) declares
  · rintro rfl
    refine ⟨.refl, declares, fun other out back different => ?_⟩
    exact absurd (Nat.le_antisymm (out.le) (back.le)) different

/-- Without a fitting method the walk goes on to the type body around this one. -/
theorem nearest_of_parent {up : ScopeId} (lacks : ¬ ∃ id, t.Declares scope name args id)
    (link : t.parent? scope = some up) :
    t.Nearest scope name args body ↔ t.Nearest up name args body := by
  constructor
  · intro nearest
    refine ⟨?_, nearest.declares, fun other out => nearest.between other (.head link out)⟩
    rcases Relation.ReflTransGen.cases_head nearest.around with rfl | ⟨next, link', rest⟩
    · exact absurd nearest.declares lacks
    · rw [link] at link'
      cases link'
      exact rest
  · intro nearest
    refine ⟨.head link nearest.around, nearest.declares, fun other out back different => ?_⟩
    rcases Relation.ReflTransGen.cases_head out with rfl | ⟨next, link', rest⟩
    · exact lacks
    · rw [link] at link'
      cases link'
      exact nearest.between other rest back different

/-- At the top of a file the walk ends. -/
theorem not_nearest_of_top (lacks : ¬ ∃ id, t.Declares scope name args id)
    (top : t.parent? scope = none) : ¬ t.Nearest scope name args body := by
  intro nearest
  rcases Relation.ReflTransGen.cases_head nearest.around with rfl | ⟨next, link, _⟩
  · exact lacks nearest.declares
  · rw [top] at link
    cases link

end

/-- The only fitting method of the first of some type bodies that has a fitting method. -/
def firstIn? (t : Tree) (name : String) (args : Option Nat) (bodies : List Scope) : Option DeclId :=
  ((bodies.map (t.candidates name args)).find? fun found => !found.isEmpty).bind only?

/-- The first body with a candidate decides. -/
theorem firstIn?_cons (name : String) (args : Option Nat) (s : Scope) (bodies : List Scope) :
    t.firstIn? name args (s :: bodies) =
      if t.candidates name args s = [] then t.firstIn? name args bodies
      else t.uniqueIn? name args s := by
  unfold firstIn?
  rw [List.map_cons, List.find?_cons]
  split
  · rename_i found
    rw [if_neg (by simpa using found)]
    rfl
  · rename_i empty
    rw [if_pos (by simpa using empty)]

/-- One step of the walk: a type body with a fitting method ends it, any other one is passed over. -/
theorem firstIn?_step {name : String} {args : Option Nat} {scope : ScopeId} (bodies : List Scope)
    (id : DeclId)
    (further : (¬ ∃ id, t.Declares scope name args id) → (t.firstIn? name args bodies = some id ↔
      ∃ body, t.Nearest scope name args body ∧ t.DeclaresOnly body name args id)) :
    t.firstIn? name args ((t.scope? scope).toList ++ bodies) = some id ↔
      ∃ body, t.Nearest scope name args body ∧ t.DeclaresOnly body name args id := by
  by_cases declares : ∃ id, t.Declares scope name args id
  · obtain ⟨first, fits⟩ := declares
    obtain ⟨s, present, rfl⟩ := fits.exists_scope
    have found : t.candidates name args s ≠ [] :=
      List.ne_nil_of_mem ((mem_candidates_iff present name args first).mpr fits)
    simp only [nearest_of_declares ⟨first, fits⟩, exists_eq_left, scope?_id present,
      Option.toList_some, List.singleton_append, firstIn?_cons, if_neg found,
      uniqueIn?_eq_some_iff present]
  · rw [← further declares]
    cases found : t.scope? scope with
    | none => rfl
    | some s =>
      have empty : t.candidates name args s = [] := by
        refine List.eq_nil_iff_forall_not_mem.mpr fun other candidate => declares ⟨other, ?_⟩
        rw [← id_of_scope? found]
        exact (mem_candidates_iff (List.mem_of_getElem? found) name args other).mp candidate
      rw [Option.toList_some, List.singleton_append, firstIn?_cons, if_pos empty]

/-- The type bodies of some numbers are those of the first number and those of the others. -/
theorem filterMap_scope?_cons (first : ScopeId) (others : List ScopeId) :
    (first :: others).filterMap t.scope? = (t.scope? first).toList ++ others.filterMap t.scope? := by
  cases found : t.scope? first <;> simp [found]

/-- A type body at the top of a file ends the walk, with or without a fitting method. -/
theorem firstIn?_top (name : String) (args : Option Nat) (id : DeclId) {scope : ScopeId}
    (top : t.parent? scope = none) :
    t.firstIn? name args ([scope].filterMap t.scope?) = some id ↔
      ∃ body, t.Nearest scope name args body ∧ t.DeclaresOnly body name args id := by
  rw [filterMap_scope?_cons]
  refine firstIn?_step _ id fun lacks => ?_
  constructor
  · intro impossible
    cases impossible
  · rintro ⟨body, nearest, _⟩
    exact absurd nearest (not_nearest_of_top lacks top)

/-- The walk along the links between type bodies finds the only fitting method of the innermost one that
has any. -/
theorem firstIn?_chainFor_eq_some_iff (name : String) (args : Option Nat) (id : DeclId) (steps : Nat)
    {scope : ScopeId} (enough : scope ≤ steps ∨ t.parent? scope = none) :
    t.firstIn? name args ((chainFor t.parent? steps scope).filterMap t.scope?) = some id ↔
      ∃ body, t.Nearest scope name args body ∧ t.DeclaresOnly body name args id := by
  induction steps generalizing scope with
  | zero =>
    refine firstIn?_top name args id (enough.elim (fun first => ?_) fun top => top)
    refine Option.eq_none_iff_forall_ne_some.mpr fun up link => ?_
    exact absurd (Nat.lt_of_lt_of_le (parent?_lt scope up link) first) (Nat.not_lt_zero up)
  | succ steps ih =>
    cases link : t.parent? scope with
    | none =>
      rw [chainFor_of_none _ link]
      exact firstIn?_top name args id link
    | some up =>
      have less : up < scope := parent?_lt scope up link
      have bound : scope ≤ steps + 1 := enough.resolve_right (by rw [link]; exact Option.some_ne_none up)
      rw [chainFor_of_some _ link, filterMap_scope?_cons]
      refine firstIn?_step _ id fun lacks => ?_
      simp only [nearest_of_parent lacks link]
      exact ih (Or.inl (Nat.le_of_lt_succ (Nat.lt_of_lt_of_le less bound)))

/-- The nearest body with a candidate decides, and has to have just one. -/
theorem inScopeChain?_eq_some_iff (name : String) (args : Option Nat) (scope : ScopeId) (id : DeclId) :
    t.inScopeChain? name args scope = some id ↔
      ∃ body, t.Nearest scope name args body ∧ t.DeclaresOnly body name args id := by
  apply firstIn?_chainFor_eq_some_iff name args id
  rcases Nat.lt_or_ge scope t.scopes.length with inside | outside
  · exact Or.inl (Nat.le_of_lt inside)
  · exact Or.inr (parent?_eq_none scope outside)

/-! ### References -/

/-- The method that a reference certainly means. -/
inductive Means (t : Tree) : Reference → DeclId → Prop
  /-- A call without a receiver means a method of the innermost type body around it that has a fitting
  one. -/
  | plain {name : String} {args : Nat} {scope body : ScopeId} {id : DeclId} :
    t.Nearest scope name (some args) body → t.DeclaresOnly body name (some args) id →
      Means t (.call name none args scope) id
  /-- A call on `this` means a method of the type body directly around it. -/
  | onThis {name : String} {namesOther : Bool} {args : Nat} {scope : ScopeId} {id : DeclId} :
    t.DeclaresOnly scope name (some args) id →
      Means t (.call name (some ⟨.thisObject, namesOther⟩) args scope) id
  /-- A call on a name means a method of the only type of that name. -/
  | onType {name type : String} {namesOther : Bool} {args : Nat} {scope body : ScopeId} {id : DeclId} :
    t.OnlyNamed type body → t.DeclaresOnly body name (some args) id →
      Means t (.call name (some ⟨.name type, namesOther⟩) args scope) id
  /-- A method reference of `this` means a method of the type body directly around it, whatever its
  parameters. -/
  | refOnThis {name : String} {scope : ScopeId} {id : DeclId} :
    t.DeclaresOnly scope name none id → Means t (.methodRef name .thisObject scope) id
  /-- A method reference of a name means a method of the only type of that name, whatever its
  parameters. -/
  | refOnType {name type : String} {scope body : ScopeId} {id : DeclId} :
    t.OnlyNamed type body → t.DeclaresOnly body name none id →
      Means t (.methodRef name (.name type) scope) id

/-- In every tree a reference is resolved to what it means. -/
theorem resolve_eq_some_iff (ref : Reference) (id : DeclId) :
    t.resolve ref = some id ↔ t.Means ref id := by
  constructor
  · intro resolved
    match ref with
    | .call _ none _ _ =>
      obtain ⟨_, nearest, only⟩ := (inScopeChain?_eq_some_iff _ _ _ id).mp resolved
      exact .plain nearest only
    | .call _ (some ⟨.thisObject, _⟩) _ _ =>
      exact .onThis ((bind_uniqueIn?_eq_some_iff _ _ _ id).mp resolved)
    | .call _ (some ⟨.name _, _⟩) _ _ =>
      obtain ⟨_, named, only⟩ := (bind_typeNamed?_eq_some_iff _ _ _ id).mp resolved
      exact .onType named only
    | .methodRef _ .thisObject _ =>
      exact .refOnThis ((bind_uniqueIn?_eq_some_iff _ _ _ id).mp resolved)
    | .methodRef _ (.name _) _ =>
      obtain ⟨_, named, only⟩ := (bind_typeNamed?_eq_some_iff _ _ _ id).mp resolved
      exact .refOnType named only
  · rintro (⟨nearest, only⟩ | only | ⟨named, only⟩ | only | ⟨named, only⟩)
    · exact (inScopeChain?_eq_some_iff _ _ _ id).mpr ⟨_, nearest, only⟩
    · exact (bind_uniqueIn?_eq_some_iff _ _ _ id).mpr only
    · exact (bind_typeNamed?_eq_some_iff _ _ _ id).mpr ⟨_, named, only⟩
    · exact (bind_uniqueIn?_eq_some_iff _ _ _ id).mpr only
    · exact (bind_typeNamed?_eq_some_iff _ _ _ id).mpr ⟨_, named, only⟩

/-- A walk outwards ends, from every type body. -/
theorem wellFounded_parent? : WellFounded fun up scope => t.parent? scope = some up :=
  Subrelation.wf (fun link => parent?_lt _ _ link) Nat.lt_wfRel.wf

end

/-- In every tree, a reference is resolved exactly to what it certainly means, which is always a method, and
the walk outwards from a type body ends. -/
theorem resolve_iff_means (t : Tree) :
    (∀ ref id, t.resolve ref = some id ↔ t.Means ref id) ∧
      (∀ ref id, t.resolve ref = some id → ∃ d, t.decl? id = some d ∧ d.kind = .method) ∧
      WellFounded fun up scope => t.parent? scope = some up :=
  ⟨resolve_eq_some_iff, fun _ _ => method_of_resolve, wellFounded_parent?⟩

/-- Two fitting methods end the walk as one does, a call on `this` looks no further than the type body
around it, and the name of a type leads anywhere. -/
theorem resolve_iff_means_of_shadowing :
    ∃ t, Tree.ofSource?
        "class A{void g(){}void h(){}class B{void g(){}void g(){}void k(){g();h();this.h();A.g();B.k();}}}"
          = some t ∧
      (t.decl? 4).map (fun d => d.references.map t.resolve) =
        some [none, some 1, none, some 0, some 4] ∧
      (∀ ref id, t.resolve ref = some id ↔ t.Means ref id) ∧
      (∀ ref id, t.resolve ref = some id → ∃ d, t.decl? id = some d ∧ d.kind = .method) ∧
      WellFounded fun up scope => t.parent? scope = some up := by
  generalize written :
    "class A{void g(){}void h(){}class B{void g(){}void g(){}void k(){g();h();this.h();A.g();B.k();}}}"
      = source
  have evaluated : (Tree.ofSource? source).any (fun t =>
      (t.decl? 4).map (fun d => d.references.map t.resolve) =
        some [none, some 1, none, some 0, some 4]) = true := by
    rw [← written]
    decide +kernel
  obtain ⟨t, read, facts⟩ := (Option.any_eq_true _ _).mp evaluated
  exact ⟨t, read, of_decide_eq_true facts, resolve_iff_means t⟩

end Tree

end DefectGraph.Source
