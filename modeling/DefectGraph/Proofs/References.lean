import DefectGraph.Graph.Extract
import Mathlib.Data.List.TakeWhile

/-!
# Where references lead

The declarations that the body of a declaration refers to, stated without regard to how they are
collected.

## Main Definitions

* `Leads` - a reference leads to a declaration.
* `PointsAt` - a declaration refers to another one before it breaks off.
* `BreaksOff` - a constructor goes on after `super(...)`.

## Main Statements

* `mem_scan_targets_iff` - the declarations that a scan collects are those that are pointed at.
* `PointsAt.callable` - all of them are methods and constructors.

## Design Notes

`Leads` has one constructor for each reason to follow a reference, and says nothing about the order in which
references are met. The order matters in one way only: behind a `super(...)` that other statements follow,
nothing is followed any more. `BreaksOff` and `PointsAt` hold that apart from the reasons.
-/

namespace DefectGraph

open DefectGraph.Source DefectGraph.Graph

/-! ### Resolved references -/

/-- The only member of a list is there when the list has no other. -/
@[simp]
theorem Source.only?_eq_some_iff {α : Type} {members : List α} {a : α} :
    only? members = some a ↔ members = [a] := by
  unfold only?
  split
  · simp
  · rename_i several
    constructor
    · intro impossible
      cases impossible
    · rintro rfl
      exact absurd rfl (several a)

namespace Source.Tree

/-- The candidates of a type body are methods. -/
theorem method_of_mem_candidates {tree : Tree} {name : String} {argCount : Option Nat}
    {scope : Scope} {id : DeclId} (candidate : id ∈ tree.candidates name argCount scope) :
    ∃ d, tree.decl? id = some d ∧ d.kind = .method := by
  have fitting := (List.mem_filter.mp candidate).2
  obtain ⟨d, found, fits⟩ := (Option.any_eq_true _ _).mp fitting
  simp only [Tree.fits, Bool.and_eq_true, beq_iff_eq] at fits
  exact ⟨d, found, fits.1.1⟩

/-- What is found in a type body is a method. -/
theorem method_of_uniqueIn? {tree : Tree} {name : String} {argCount : Option Nat} {scope : Scope}
    {id : DeclId} (unique : tree.uniqueIn? name argCount scope = some id) :
    ∃ d, tree.decl? id = some d ∧ d.kind = .method := by
  have single := only?_eq_some_iff.mp unique
  exact method_of_mem_candidates (single ▸ List.mem_singleton_self id)

/-- Whichever body is looked in, what is found there is a method. -/
theorem method_of_bind_uniqueIn? {tree : Tree} {name : String} {argCount : Option Nat}
    {scope? : Option Scope} {id : DeclId}
    (resolved : scope?.bind (tree.uniqueIn? name argCount) = some id) :
    ∃ d, tree.decl? id = some d ∧ d.kind = .method := by
  obtain ⟨body, _, unique⟩ := Option.bind_eq_some_iff.mp resolved
  exact method_of_uniqueIn? unique

/-- What is found in the type bodies around a place is a method. -/
theorem method_of_inScopeChain? {tree : Tree} {name : String} {argCount : Option Nat}
    {scope : ScopeId} {id : DeclId} (found : tree.inScopeChain? name argCount scope = some id) :
    ∃ d, tree.decl? id = some d ∧ d.kind = .method := by
  obtain ⟨candidates, first, unique⟩ := Option.bind_eq_some_iff.mp found
  obtain ⟨body, _, rfl⟩ := List.mem_map.mp (List.mem_of_find?_eq_some first)
  exact method_of_uniqueIn? unique

/-- A reference is resolved to a method only. -/
theorem method_of_resolve {tree : Tree} {ref : Reference} {id : DeclId}
    (resolved : tree.resolve ref = some id) : ∃ d, tree.decl? id = some d ∧ d.kind = .method := by
  unfold Tree.resolve at resolved
  split at resolved
  · exact method_of_inScopeChain? resolved
  · split at resolved
    · exact method_of_bind_uniqueIn? resolved
    · exact method_of_bind_uniqueIn? resolved
    · cases resolved
  · split at resolved
    · exact method_of_bind_uniqueIn? resolved
    · exact method_of_bind_uniqueIn? resolved
    · cases resolved
    · cases resolved
  · cases resolved
  · cases resolved

end Source.Tree

namespace Graph

/-! ### Single references -/

/-- A method or constructor has the name. -/
def HasName (tree : Tree) (name : String) (id : DeclId) : Prop :=
  ∃ d, tree.decl? id = some d ∧ d.kind ≠ .enumConstant ∧ d.name = name

@[simp]
theorem mem_named_iff {tree : Tree} {name : String} {id : DeclId} :
    id ∈ named tree name ↔ HasName tree name id := by
  simp only [named, List.mem_map, List.mem_filter, Declaration.isCallable, Bool.and_eq_true, bne_iff_ne,
    beq_iff_eq]
  constructor
  · rintro ⟨d, ⟨declared, callable, same⟩, rfl⟩
    exact ⟨d, tree.decl?_id declared, callable, same⟩
  · rintro ⟨d, found, callable, same⟩
    exact ⟨d, ⟨List.mem_of_getElem? found, callable, same⟩, tree.id_of_decl? found⟩

/-- A reference leads to a declaration. -/
inductive Leads (tree : Tree) : Reference → DeclId → Prop
  /-- A call that is resolved leads to its target. -/
  | call {name : String} {receiver : Option Receiver} {args : Nat} {scope : ScopeId} {id : DeclId} :
    tree.resolve (.call name receiver args scope) = some id →
      Leads tree (.call name receiver args scope) id
  /-- A call that is not resolved, and whose receiver names nothing else, leads to all declarations of
  its name. -/
  | guess {name : String} {receiver : Option Receiver} {args : Nat} {scope : ScopeId} {id : DeclId} :
    tree.resolve (.call name receiver args scope) = none →
      (∀ r, receiver = some r → r.namesOther = false) → HasName tree name id →
      Leads tree (.call name receiver args scope) id
  /-- A method reference leads to its target when it is resolved. -/
  | methodRef {name : String} {target : RefTarget} {scope : ScopeId} {id : DeclId} :
    tree.resolve (.methodRef name target scope) = some id →
      Leads tree (.methodRef name target scope) id
  /-- A construction without a body leads to all declarations of the type's name. -/
  | creation {type : String} {id : DeclId} : HasName tree type id → Leads tree (.creation type false) id
  /-- A `this(...)` leads to all declarations of the type's name. -/
  | redirect {type : String} {isLast : Bool} {id : DeclId} : HasName tree type id →
      Leads tree (.redirect .toThis type isLast) id

/-- A call is matched by its name alone unless its receiver names something else. -/
theorem isGuessed_iff {receiver : Option Receiver} :
    isGuessed receiver = true ↔ ∀ r, receiver = some r → r.namesOther = false := by
  cases receiver <;> simp [isGuessed]

/-- The targets of a reference are the declarations it leads to. -/
theorem mem_targets_iff {tree : Tree} {ref : Reference} {id : DeclId} :
    id ∈ targets tree ref ↔ Leads tree ref id := by
  constructor
  · intro target
    unfold targets at target
    split at target
    · split at target
      · rename_i resolved
        cases List.mem_singleton.mp target
        exact .call resolved
      · rename_i unresolved
        split at target
        · rename_i guessed
          exact .guess unresolved (isGuessed_iff.mp guessed) (mem_named_iff.mp target)
        · cases target
    · exact .methodRef (Option.mem_toList.mp target)
    · split at target
      · cases target
      · rename_i bodiless
        rw [Bool.not_eq_true] at bodiless
        subst bodiless
        exact .creation (mem_named_iff.mp target)
    · exact .redirect (mem_named_iff.mp target)
    · cases target
  · intro leads
    cases leads with
    | call resolved => simp [targets, resolved]
    | guess unresolved guessed hasName =>
      simpa [targets, unresolved, isGuessed_iff.mpr guessed] using mem_named_iff.mpr hasName
    | methodRef resolved => simp [targets, resolved]
    | creation hasName => simpa [targets] using mem_named_iff.mpr hasName
    | redirect hasName => simpa [targets] using mem_named_iff.mpr hasName

/-- A reference leads to methods and constructors only. -/
theorem Leads.callable {tree : Tree} {ref : Reference} {id : DeclId} (leads : Leads tree ref id) :
    ∃ d, tree.decl? id = some d ∧ d.kind ≠ .enumConstant := by
  have ofName : ∀ {name : String}, HasName tree name id →
      ∃ d, tree.decl? id = some d ∧ d.kind ≠ .enumConstant :=
    fun ⟨d, found, callable, _⟩ => ⟨d, found, callable⟩
  have ofResolved : ∀ {ref : Reference}, tree.resolve ref = some id →
      ∃ d, tree.decl? id = some d ∧ d.kind ≠ .enumConstant := by
    intro ref resolved
    obtain ⟨d, found, method⟩ := tree.method_of_resolve resolved
    exact ⟨d, found, by rw [method]; decide⟩
  cases leads with
  | call resolved => exact ofResolved resolved
  | guess _ _ hasName => exact ofName hasName
  | methodRef resolved => exact ofResolved resolved
  | creation hasName => exact ofName hasName
  | redirect hasName => exact ofName hasName

/-! ### Bodies -/

/-- The references of a declaration. -/
def referencesOf (tree : Tree) (decl : DeclId) : List Reference :=
  ((tree.decl? decl).map Declaration.references).getD []

/-- The declaration is a constructor that goes on after a `super(...)`. -/
def BreaksOff (tree : Tree) (decl : DeclId) : Prop :=
  ∃ type, .redirect .toSuper type false ∈ referencesOf tree decl

/-- A declaration refers to another one, with no `super(...)` before it after which it goes on. -/
def PointsAt (tree : Tree) (decl target : DeclId) : Prop :=
  ∃ before ref after, referencesOf tree decl = before ++ ref :: after ∧
    (∀ type, .redirect .toSuper type false ∉ before) ∧ Leads tree ref target

/-- Only a `super(...)` that is not the last statement stops the scan. -/
@[simp]
theorem isBreak_iff {ref : Reference} :
    isBreak ref = true ↔ ∃ type, ref = .redirect .toSuper type false := by
  unfold isBreak
  split <;> simp_all

/-- The scan marks a declaration as invalid exactly when it breaks off. -/
@[simp]
theorem scan_invalid_iff (tree : Tree) (decl : DeclId) :
    (scan tree decl).invalid = true ↔ BreaksOff tree decl := by
  simp only [scan, BreaksOff, referencesOf, List.any_eq_true, isBreak_iff]
  constructor
  · rintro ⟨ref, present, type, rfl⟩
    exact ⟨type, present⟩
  · rintro ⟨type, present⟩
    exact ⟨_, present, type, rfl⟩

/-- A member of the longest start with a property is one before which all have the property. -/
theorem mem_takeWhile_iff {α : Type} {p : α → Bool} {members : List α} {a : α} :
    a ∈ members.takeWhile p ↔
      ∃ before after, members = before ++ a :: after ∧ (∀ b ∈ before, p b = true) ∧ p a = true := by
  constructor
  · intro present
    obtain ⟨before, after, split⟩ := List.append_of_mem present
    have all : ∀ b ∈ before ++ a :: after, p b = true := by
      rw [← split]
      exact fun b => List.mem_takeWhile_imp
    refine ⟨before, after ++ members.dropWhile p, ?_, fun b early => all b (by simp [early]),
      all a (by simp)⟩
    calc members = members.takeWhile p ++ members.dropWhile p :=
          List.takeWhile_append_dropWhile.symm
      _ = before ++ a :: (after ++ members.dropWhile p) := by rw [split]; simp
  · rintro ⟨before, after, rfl, early, here⟩
    rw [List.takeWhile_append_of_pos early, List.takeWhile_cons_of_pos here]
    simp

/-- The declarations that a scan collects are those that the declaration points at. -/
theorem mem_scan_targets_iff (tree : Tree) (decl target : DeclId) :
    target ∈ (scan tree decl).targets ↔ PointsAt tree decl target := by
  have notBreak : ∀ ref : Reference,
      (!isBreak ref) = true ↔ ∀ type, ref ≠ .redirect .toSuper type false := by
    intro ref
    rw [Bool.not_eq_true', ← Bool.not_eq_true, isBreak_iff, not_exists]
  have collected : target ∈ (scan tree decl).targets ↔
      ∃ ref ∈ (referencesOf tree decl).takeWhile fun ref => !isBreak ref, Leads tree ref target := by
    simp only [scan, referencesOf, List.mem_eraseDups, List.mem_flatMap, mem_targets_iff]
  rw [collected]
  constructor
  · rintro ⟨ref, read, leads⟩
    obtain ⟨before, after, split, early, _⟩ := mem_takeWhile_iff.mp read
    refine ⟨before, ref, after, split, ?_, leads⟩
    intro type present
    exact (notBreak _).mp (early _ present) type rfl
  · rintro ⟨before, ref, after, split, early, leads⟩
    refine ⟨ref, mem_takeWhile_iff.mpr ⟨before, after, split, ?_, ?_⟩, leads⟩
    · intro other present
      rw [notBreak]
      rintro type rfl
      exact early type present
    · rw [notBreak]
      rintro type rfl
      cases leads

/-- Only methods and constructors are pointed at. -/
theorem PointsAt.callable {tree : Tree} {decl target : DeclId} (points : PointsAt tree decl target) :
    ∃ d, tree.decl? target = some d ∧ d.kind ≠ .enumConstant := by
  obtain ⟨_, _, _, _, _, leads⟩ := points
  exact leads.callable

end Graph

end DefectGraph
