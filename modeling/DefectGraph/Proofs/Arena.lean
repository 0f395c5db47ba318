import DefectGraph.Proofs.Nesting

/-!
# The declarations and type bodies of a file

Declarations and type bodies stand in two lists and refer to one another by number. Links only lead to
smaller numbers, so every walk along them ends; and what they lead to is what the source text says.

## Main Definitions

* `Item.walk` - the numbers met in the item tree, each before those inside.
* `Ends` - a walk along links comes to an end.
* `Outermost` - the farthest of the methods and constructors around a declaration.
* `Tree.WellFormed` - the numbers and links of a file are as they should be.

## Main Statements

* `Outline.Met.invariant` - the walk over the code puts into the item tree what it puts into the lists.
* `Ends.of_down` - a walk along links to smaller numbers ends.
* `Tree.outermost_spec` - the walk from a declaration comes to the farthest one around it.
* `Tree.wellFormed_of_source` - the tree of every file whose marks stand in order is well-formed, and so is
  that of every source text.

## Design Notes

What a tree carries with it holds for all trees, however their texts were read. The rest depends on the
text: that declarations stand in order, and that the enclosing declaration is the nearest one around, needs
`Nested`, and nothing more than `Nested` is used of the text.
-/

namespace DefectGraph.Source

open DefectGraph.Java (Between CompilationUnit)

/-! ### The item tree -/

mutual

/-- The type bodies and declarations met in an item, each before those inside it. -/
def Item.walk : Item → List (ScopeId ⊕ DeclId)
  | .type scope _ _ members | .anonymous scope members => .inl scope :: Item.walkAll members
  | .callable decl inner | .enumConstant decl inner => .inr decl :: Item.walkAll inner

/-- The type bodies and declarations met in items, one after the other. -/
def Item.walkAll : List Item → List (ScopeId ⊕ DeclId)
  | [] => []
  | item :: rest => item.walk ++ Item.walkAll rest

end

/-- Items are walked over one after the other. -/
@[simp]
theorem Item.walkAll_append (a b : List Item) :
    Item.walkAll (a ++ b) = Item.walkAll a ++ Item.walkAll b := by
  induction a with
  | nil => rfl
  | cons item rest ih => rw [List.cons_append, walkAll, walkAll, ih, List.append_assoc]

/-- The items of an outline hold its declarations and type bodies in the order of its lists. -/
structure Outline.Met (o : Outline) : Prop where
  decls : (Item.walkAll o.items).filterMap Sum.getRight? = o.decls.map Declaration.id
  scopes : (Item.walkAll o.items).filterMap Sum.getLeft? = o.scopes.map Scope.id

namespace Outline.Met

/-- What is found in two pieces of code is met in turn. -/
theorem append {a b : Outline} (first : a.Met) (second : b.Met) : (a ++ b).Met where
  decls := by
    rw [items_append, Item.walkAll_append, List.filterMap_append, first.decls, second.decls,
      decls_append, List.map_append]
  scopes := by
    rw [items_append, Item.walkAll_append, List.filterMap_append, first.scopes, second.scopes,
      scopes_append, List.map_append]

/-- A type body is met before its members. -/
theorem body {inside : Outline} (scope : Scope) {item : List Item → Item} (members : inside.Met)
    (first : ∀ items, (item items).walk = .inl scope.id :: Item.walkAll items) :
    (Outline.body scope item inside).Met where
  decls := by
    show ((item inside.items).walk ++ []).filterMap Sum.getRight? = inside.decls.map Declaration.id
    rw [first, List.append_nil]
    exact members.decls
  scopes := by
    show ((item inside.items).walk ++ []).filterMap Sum.getLeft?
      = scope.id :: inside.scopes.map Scope.id
    rw [first, List.append_nil, ← members.scopes]
    rfl

/-- A declaration is met before what is inside it. -/
theorem declaration {inside : Outline} (d : Declaration) {item : List Item → Item}
    (inner : inside.Met) (first : ∀ items, (item items).walk = .inr d.id :: Item.walkAll items) :
    (Outline.declaration d item inside).Met where
  decls := by
    show ((item inside.items).walk ++ []).filterMap Sum.getRight?
      = d.id :: inside.decls.map Declaration.id
    rw [first, List.append_nil, ← inner.decls]
    rfl
  scopes := by
    show ((item inside.items).walk ++ []).filterMap Sum.getLeft? = inside.scopes.map Scope.id
    rw [first, List.append_nil]
    exact inner.scopes

/-- The walk puts what it finds into the item tree and into the lists in the same order. -/
theorem invariant : WalkInvariant fun _ _ _ o _ => o.Met where
  nil _ _ := ⟨rfl, rfl⟩
  append := append
  plain _ parts := parts
  inlineBody members := members.body _ fun _ => rfl
  namedType _ _ _ members := members.body _ fun _ => rfl
  callable _ inner := inner.declaration _ fun _ => rfl
  constant _ _ _ inner := inner.declaration _ fun _ => rfl

/-- So it is in whole files. -/
theorem unitInvariant : UnitInvariant fun _ _ o _ => o.Met where
  nil _ := ⟨rfl, rfl⟩
  package _ rest := rest
  type := by
    intro n m k members rest inside others package name typeParams header found later
    have walked := invariant.outlineAll (.top package n.scopes name typeParams) (n.enter header) members
    rw [found] at walked
    exact (walked.body _ fun _ => rfl).append later

end Outline.Met

/-! ### Walks along links -/

/-- A walk along links comes to a number without a link before its steps are used up. -/
def Ends (next : Nat → Option Nat) (steps id : Nat) : Prop :=
  ∃ last, (chainFor next steps id).getLast? = some last ∧ next last = none

section

variable {next : Nat → Option Nat}

/-- A link is one step of the walk. -/
theorem chainFor_of_some {id up : Nat} (steps : Nat) (link : next id = some up) :
    chainFor next (steps + 1) id = id :: chainFor next steps up := by
  rw [chainFor, link]

/-- Without a link the walk ends where it is. -/
theorem chainFor_of_none {id : Nat} (steps : Nat) (link : next id = none) :
    chainFor next steps id = [id] := by
  cases steps with
  | zero => rfl
  | succ steps => rw [chainFor, link]

/-- Links that lead to smaller numbers cannot be followed more often than the number says. -/
theorem Ends.of_down (down : ∀ id up, next id = some up → up < id) {steps id : Nat}
    (enough : id ≤ steps) : Ends next steps id := by
  induction steps generalizing id with
  | zero =>
    cases link : next id with
    | none => exact ⟨id, rfl, link⟩
    | some up =>
      have := down id up link
      omega
  | succ steps ih =>
    cases link : next id with
    | none => exact ⟨id, by rw [chainFor_of_none _ link]; rfl, link⟩
    | some up =>
      have less := down id up link
      have enough' : up ≤ steps := by omega
      obtain ⟨last, found, done⟩ := ih enough'
      refine ⟨last, ?_, done⟩
      rw [chainFor_of_some _ link, List.getLast?_cons, found]
      rfl

/-- Beyond the numbers in use there are no links. -/
theorem Ends.of_down_of_none {size : Nat} (down : ∀ id up, next id = some up → up < id)
    (unlinked : ∀ id, size ≤ id → next id = none) (id : Nat) : Ends next size id := by
  rcases Nat.lt_or_ge id size with less | outside
  · exact .of_down down (Nat.le_of_lt less)
  · have link := unlinked id outside
    exact ⟨id, by rw [chainFor_of_none _ link]; rfl, link⟩

/-- A walk along links to smaller numbers meets none that is greater. -/
theorem le_of_mem_chainFor (down : ∀ id up, next id = some up → up < id) {steps id i : Nat}
    (mem : i ∈ chainFor next steps id) : i ≤ id := by
  induction steps generalizing id with
  | zero => exact Nat.le_of_eq (List.mem_singleton.mp mem)
  | succ steps ih =>
    cases link : next id with
    | none =>
      rw [chainFor_of_none _ link] at mem
      exact Nat.le_of_eq (List.mem_singleton.mp mem)
    | some up =>
      rw [chainFor_of_some _ link] at mem
      rcases List.mem_cons.mp mem with rfl | mem
      · exact Nat.le_refl i
      · have := down id up link
        have := ih mem
        omega

end

/-- The outermost declaration around a declaration of a file is one of the file. -/
theorem Tree.exists_decl?_outermost {t : Tree} {id : DeclId} {d : Declaration}
    (found : t.decl? id = some d) : ∃ e, t.decl? (t.outermost id) = some e := by
  have small : t.outermost id ≤ id := by
    have last : t.outermost id ∈ id :: t.enclosingChain id := List.getLastD_mem_cons
    rcases List.mem_cons.mp last with same | walked
    · exact Nat.le_of_eq same
    · exact le_of_mem_chainFor enclosing?_lt walked
  exact ⟨_, List.getElem?_eq_getElem (Nat.lt_of_le_of_lt small (lt_of_decl? found))⟩

/-! ### Whole files -/

/-- Of the declarations, `e` is the farthest method or constructor around `d`. -/
structure Outermost (ds : List Declaration) (e d : Declaration) : Prop where
  mem : e ∈ ds
  surrounds : e.Surrounds d
  farthest : ∀ other ∈ ds, other.Surrounds d → other = e ∨ e.Surrounds other

/-- The numbers and links of a file are as they should be. -/
structure Tree.WellFormed (t : Tree) : Prop where
  /-- A declaration stands at the place of its number. -/
  declNumbers : t.decls.map Declaration.id = List.range t.decls.length
  scopeNumbers : t.scopes.map Scope.id = List.range t.scopes.length
  /-- The item tree holds every declaration once, in the order of the numbers. -/
  declsMet : (Item.walkAll t.items).filterMap Sum.getRight? = List.range t.decls.length
  scopesMet : (Item.walkAll t.items).filterMap Sum.getLeft? = List.range t.scopes.length
  starts : t.decls.Pairwise fun a b => a.span.start < b.span.start
  parent : ∀ s ∈ t.scopes, ∀ up ∈ s.parent, up < s.id
  enclosingBefore : ∀ d ∈ t.decls, ∀ up ∈ d.enclosing, up < d.id
  owner : ∀ d ∈ t.decls, ∃ s, t.scope? d.scope = some s ∧ d.owner = s.binaryName
  /-- A type body lists the methods and constructors that are its members, in order. -/
  callables : ∀ s ∈ t.scopes, ∀ id,
    id ∈ s.callables ↔ ∃ d, t.decl? id = some d ∧ d.isCallable = true ∧ d.scope = s.id
  callablesOrdered : ∀ s ∈ t.scopes, s.callables.Pairwise (· < ·)
  /-- The enclosing declaration is the innermost method or constructor around a declaration. -/
  enclosing : ∀ d ∈ t.decls, ∀ id,
    d.enclosing = some id ↔ ∃ e, t.decl? id = some e ∧ Innermost t.decls e d
  enclosingNone : ∀ d ∈ t.decls, d.enclosing = none ↔ ∀ e ∈ t.decls, ¬ e.Surrounds d
  /-- The walk to the outermost declaration ends, from every number. -/
  enclosingEnds : ∀ id, Ends t.enclosing? t.decls.length id
  /-- So does the walk over the type bodies around one. -/
  scopesEnd : ∀ id, Ends t.parent? t.scopes.length id
  /-- The type bodies of that walk are all there. -/
  scopeChain : ∀ s ∈ t.scopes,
    (t.scopeChain s.id).map Scope.id = chainFor t.parent? t.scopes.length s.id
  /-- The walk comes to a named type. -/
  typeName : ∀ s ∈ t.scopes, ∃ name, t.typeName? s.id = some name
  /-- The walk to the outermost declaration comes to the top-most method or constructor around it, and
  stays at a declaration that none is around. -/
  outermost : ∀ d ∈ t.decls,
    (t.outermost d.id = d.id ∧ ∀ e ∈ t.decls, ¬ e.Surrounds d) ∨
      ∃ e, t.decl? (t.outermost d.id) = some e ∧ Outermost t.decls e d

namespace Tree

variable {t : Tree}

/-- A declaration that surrounds another one has the smaller number. -/
theorem id_lt_of_surrounds (starts : t.decls.Pairwise fun a b => a.span.start < b.span.start)
    {e d : Declaration} (mem : e ∈ t.decls) (mem' : d ∈ t.decls) (around : e.Surrounds d) :
    e.id < d.id := by
  have found := decl?_id mem
  have found' := decl?_id mem'
  obtain ⟨bound, same⟩ := List.getElem?_eq_some_iff.mp found
  obtain ⟨bound', same'⟩ := List.getElem?_eq_some_iff.mp found'
  rcases Nat.lt_trichotomy e.id d.id with before | equal | after
  · exact before
  · rw [equal, found'] at found
    cases found
    exact absurd around Declaration.Surrounds.irrefl
  · -- it would start after the declaration it surrounds
    have later := List.pairwise_iff_getElem.mp starts d.id e.id bound' bound after
    rw [same, same'] at later
    exact absurd around.start_le (Nat.not_le_of_lt later)

/-- The number of a type body is one of its file. -/
theorem id_lt_length {s : Scope} (mem : s ∈ t.scopes) : s.id < t.scopes.length :=
  (List.getElem?_eq_some_iff.mp (scope?_id mem)).choose

/-- Numbers in use name type bodies with these numbers. -/
theorem map_id_filterMap_scope? (ids : List ScopeId) (inside : ∀ id ∈ ids, id < t.scopes.length) :
    (ids.filterMap t.scope?).map Scope.id = ids := by
  induction ids with
  | nil => rfl
  | cons id ids ih =>
    obtain ⟨here, others⟩ := List.forall_mem_cons.mp inside
    have found : t.scope? id = some t.scopes[id] := List.getElem?_eq_getElem here
    rw [List.filterMap_cons_some found, List.map_cons, id_of_scope? found, ih others]

theorem enclosing?_eq_none (id : DeclId) (outside : t.decls.length ≤ id) :
    t.enclosing? id = none := by
  rw [enclosing?, decl?, List.getElem?_eq_none outside]
  rfl

theorem parent?_eq_none (id : ScopeId) (outside : t.scopes.length ≤ id) : t.parent? id = none := by
  rw [parent?, scope?, List.getElem?_eq_none outside]
  rfl

/-- The link of a declaration is found by its number. -/
theorem enclosing?_id {d : Declaration} (mem : d ∈ t.decls) : t.enclosing? d.id = d.enclosing := by
  rw [enclosing?, decl?_id mem]
  rfl

/-- The link of a type body is found by its number. -/
theorem parent?_id {s : Scope} (mem : s ∈ t.scopes) : t.parent? s.id = s.parent := by
  rw [parent?, scope?_id mem]
  rfl

section Nested

variable {stop : Nat} (nested : Nested none 0 stop t.decls)
include nested

/-- A declaration is linked to the innermost one around it. -/
theorem enclosing_eq_some_iff {d : Declaration} (mem : d ∈ t.decls) (id : DeclId) :
    d.enclosing = some id ↔ ∃ e, t.decl? id = some e ∧ Innermost t.decls e d := by
  rcases nested.enclosed d mem with ⟨same, outside⟩ | ⟨e, innermost, same⟩
  · rw [same]
    constructor
    · rintro ⟨⟩
    · rintro ⟨e, _, innermost⟩
      exact absurd innermost.surrounds (outside e innermost.mem)
  · rw [same]
    constructor
    · rintro ⟨⟩
      exact ⟨e, decl?_id innermost.mem, innermost⟩
    · rintro ⟨e', found, innermost'⟩
      rw [innermost.unique innermost', t.id_of_decl? found]

/-- A declaration without a link has none around it. -/
theorem enclosing_eq_none_iff {d : Declaration} (mem : d ∈ t.decls) :
    d.enclosing = none ↔ ∀ e ∈ t.decls, ¬ e.Surrounds d := by
  rcases nested.enclosed d mem with ⟨same, outside⟩ | ⟨e, innermost, same⟩
  · exact ⟨fun _ => outside, fun _ => same⟩
  · rw [same]
    constructor
    · rintro ⟨⟩
    · intro outside
      exact absurd innermost.surrounds (outside e innermost.mem)

/-- The walk from a declaration comes to the farthest method or constructor around it. -/
theorem outermost_chainFor (steps : Nat) {d : Declaration} (mem : d ∈ t.decls)
    (enough : d.id ≤ steps) :
    (chainFor t.enclosing? steps d.id = [d.id] ∧ ∀ e ∈ t.decls, ¬ e.Surrounds d) ∨
      ∃ e, (chainFor t.enclosing? steps d.id).getLast? = some e.id ∧ Outermost t.decls e d := by
  induction steps generalizing d with
  | zero =>
    left
    refine ⟨rfl, (enclosing_eq_none_iff nested mem).mp (Option.eq_none_iff_forall_ne_some.mpr ?_)⟩
    intro up above
    have := t.enclosingBefore d mem up above
    exact absurd (Nat.lt_of_lt_of_le this enough) (Nat.not_lt_zero up)
  | succ steps ih =>
    cases above : d.enclosing with
    | none =>
      have link : t.enclosing? d.id = none := (enclosing?_id mem).trans above
      exact Or.inl ⟨chainFor_of_none _ link, (enclosing_eq_none_iff nested mem).mp above⟩
    | some up =>
      right
      have link : t.enclosing? d.id = some up := (enclosing?_id mem).trans above
      obtain ⟨e, found, innermost⟩ := (enclosing_eq_some_iff nested mem up).mp above
      have id : e.id = up := t.id_of_decl? found
      have less : e.id < d.id :=
        id_lt_of_surrounds nested.starts innermost.mem mem innermost.surrounds
      rw [chainFor_of_some _ link, ← id, List.getLast?_cons]
      -- whatever is around `d` is `e` or around `e`
      rcases ih innermost.mem (Nat.le_of_lt_succ (Nat.lt_of_lt_of_le less enough)) with
        ⟨alone, outside⟩ | ⟨top, last, outermost⟩
      · refine ⟨e, by rw [alone]; rfl, innermost.mem, innermost.surrounds, ?_⟩
        intro other mem' around
        exact (innermost.nearest other mem' around).imp_right fun around' =>
          absurd around' (outside other mem')
      · refine ⟨top, by rw [last]; rfl, outermost.mem,
          outermost.surrounds.trans innermost.surrounds, ?_⟩
        intro other mem' around
        rcases innermost.nearest other mem' around with rfl | around'
        · exact Or.inr outermost.surrounds
        · exact outermost.farthest other mem' around'

/-- The walk from a declaration comes to the farthest one around it, if there is any. -/
theorem outermost_spec {d : Declaration} (mem : d ∈ t.decls) :
    (t.outermost d.id = d.id ∧ ∀ e ∈ t.decls, ¬ e.Surrounds d) ∨
      ∃ e, t.decl? (t.outermost d.id) = some e ∧ Outermost t.decls e d := by
  have bound : d.id ≤ t.decls.length := Nat.le_of_lt (lt_of_decl? (decl?_id mem))
  unfold outermost enclosingChain
  rw [List.getLastD_eq_getLast?]
  rcases outermost_chainFor nested t.decls.length mem bound with
    ⟨alone, outside⟩ | ⟨e, last, outermost⟩
  · exact Or.inl ⟨by rw [alone]; rfl, outside⟩
  · right
    rw [last]
    exact ⟨e, decl?_id outermost.mem, outermost⟩

end Nested

/-! ### Members of type bodies -/

/-- The type body that a declaration is a member of is there. -/
theorem exists_owner {d : Declaration} (mem : d ∈ t.decls) :
    ∃ s, t.scope? d.scope = some s ∧ d.owner = s.binaryName := by
  obtain ⟨s, found, id, owner⟩ := t.owned d mem
  refine ⟨s, ?_, owner.symm⟩
  rw [← id]
  exact scope?_id found

/-- A type body lists exactly the methods and constructors that are its members. -/
theorem mem_callables_iff {s : Scope} (mem : s ∈ t.scopes) (id : DeclId) :
    id ∈ s.callables ↔ ∃ d, t.decl? id = some d ∧ d.isCallable = true ∧ d.scope = s.id := by
  rw [t.members s mem, callablesIn, List.mem_map]
  constructor
  · rintro ⟨d, present, rfl⟩
    rw [List.mem_filter, Bool.and_eq_true, beq_iff_eq] at present
    exact ⟨d, decl?_id present.1, present.2.2, present.2.1⟩
  · rintro ⟨d, found, callable, here⟩
    refine ⟨d, ?_, t.id_of_decl? found⟩
    rw [List.mem_filter, Bool.and_eq_true, beq_iff_eq]
    exact ⟨List.mem_of_getElem? found, here, callable⟩

/-- It lists them in the order of their numbers. -/
theorem callables_ordered {s : Scope} (mem : s ∈ t.scopes) : s.callables.Pairwise (· < ·) := by
  have ids : s.callables.Sublist (List.range t.decls.length) := by
    rw [t.members s mem, ← t.declsNumbered]
    exact List.filter_sublist.map Declaration.id
  exact List.pairwise_lt_range.sublist ids

/-- The type body around a type body is one of the file. -/
theorem exists_parent {s : Scope} (mem : s ∈ t.scopes) {up : ScopeId} (above : s.parent = some up) :
    ∃ around ∈ t.scopes, around.id = up ∧ up < s.id := by
  have less : up < s.id := t.parentBefore s mem up above
  have bound : up < t.scopes.length := Nat.lt_trans less (id_lt_length mem)
  exact ⟨t.scopes[up], List.getElem_mem bound, id_of_scope? (List.getElem?_eq_getElem bound), less⟩

/-- The walk over the type bodies around one comes to a named type. -/
theorem exists_typeName (steps : Nat) {s : Scope} (mem : s ∈ t.scopes) (enough : s.id ≤ steps) :
    ∃ name, ((chainFor t.parent? steps s.id).filterMap t.scope?).findSome? Scope.name
      = some name := by
  induction steps generalizing s with
  | zero =>
    have top : s.parent = none := by
      refine Option.eq_none_iff_forall_ne_some.mpr fun up above => ?_
      exact absurd (Nat.lt_of_lt_of_le (t.parentBefore s mem up above) enough) (Nat.not_lt_zero up)
    obtain ⟨name, named⟩ := Option.ne_none_iff_exists'.mp (t.topNamed s mem top)
    exact ⟨name, by simp [chainFor, scope?_id mem, named]⟩
  | succ steps ih =>
    cases above : s.parent with
    | none =>
      obtain ⟨name, named⟩ := Option.ne_none_iff_exists'.mp (t.topNamed s mem above)
      have link : t.parent? s.id = none := (parent?_id mem).trans above
      exact ⟨name, by simp [chainFor_of_none _ link, scope?_id mem, named]⟩
    | some up =>
      have link : t.parent? s.id = some up := (parent?_id mem).trans above
      obtain ⟨around, present, rfl, less⟩ := exists_parent mem above
      rw [chainFor_of_some _ link, List.filterMap_cons_some (scope?_id mem), List.findSome?_cons]
      cases s.name with
      | some name => exact ⟨name, rfl⟩
      | none => exact ih present (Nat.le_of_lt_succ (Nat.lt_of_lt_of_le less enough))

/-- No type body on the walk is missing. -/
theorem map_id_scopeChain {s : Scope} (mem : s ∈ t.scopes) :
    (t.scopeChain s.id).map Scope.id = chainFor t.parent? t.scopes.length s.id := by
  apply map_id_filterMap_scope?
  intro id on
  exact Nat.lt_of_le_of_lt (le_of_mem_chainFor parent?_lt on) (id_lt_length mem)

/-! ### Well-formed trees -/

/-- A tree is well-formed when its item tree holds what its lists hold and its declarations are nested. -/
theorem wellFormed_of_nested {stop : Nat} (nested : Nested none 0 stop t.decls)
    (met : Outline.Met ⟨t.items, t.decls, t.scopes⟩) : t.WellFormed where
  declNumbers := t.declsNumbered
  scopeNumbers := t.scopesNumbered
  declsMet := met.decls.trans t.declsNumbered
  scopesMet := met.scopes.trans t.scopesNumbered
  starts := nested.starts
  parent := t.parentBefore
  enclosingBefore := t.enclosingBefore
  owner _ mem := exists_owner mem
  callables _ mem := mem_callables_iff mem
  callablesOrdered _ mem := callables_ordered mem
  enclosing _ mem := enclosing_eq_some_iff nested mem
  enclosingNone _ mem := enclosing_eq_none_iff nested mem
  enclosingEnds := Ends.of_down_of_none enclosing?_lt enclosing?_eq_none
  scopesEnd := Ends.of_down_of_none parent?_lt parent?_eq_none
  scopeChain _ mem := map_id_scopeChain mem
  typeName _ mem := exists_typeName _ mem (Nat.le_of_lt (id_lt_length mem))
  outermost _ mem := outermost_spec nested mem

/-- A file whose marks stand in order has a well-formed tree. -/
theorem wellFormed_ofUnit (source : String) {unit : CompilationUnit} {stop : Nat}
    (ordered : Between 0 stop unit.marks) : (Tree.ofUnit source unit).WellFormed :=
  wellFormed_of_nested (nested_ofUnit source ordered)
    (Outline.Met.unitInvariant.outlineUnit "" .start unit).choose_spec

/-- The numbers and links of every file whose marks stand in order are as they should be, and so are those
of every source text that can be read. -/
theorem wellFormed_of_source :
    (∀ (source : String) (unit : CompilationUnit) (stop : Nat), Between 0 stop unit.marks →
        (Tree.ofUnit source unit).WellFormed) ∧
      ∀ (source : String) (t : Tree), Tree.ofSource? source = some t → t.WellFormed := by
  refine ⟨fun source _ _ => wellFormed_ofUnit source, fun source t read => ?_⟩
  obtain ⟨unit, parsed, rfl⟩ := Option.map_eq_some_iff.mp read
  obtain ⟨_, ordered⟩ := CompilationUnit.between_marks parsed
  exact wellFormed_ofUnit source ordered

/-- Class bodies in the arguments and in the body of an enum constant have nothing around them, those
inside a constructor have the constructor. -/
theorem wellFormed_of_nested_bodies :
    ∃ t, Tree.ofSource?
        "enum E{A(new O(){void m(){}}){int f(){}};E(O o){class L{void g(){}}new O(){void h(){}};}}"
          = some t ∧
      t.decls.map Declaration.enclosing = [none, none, none, none, some 3, some 3] ∧
      t.scopes.map Scope.callables = [[3], [1], [2], [4], [5]] ∧ t.WellFormed := by
  generalize written :
    "enum E{A(new O(){void m(){}}){int f(){}};E(O o){class L{void g(){}}new O(){void h(){}};}}"
      = source
  have evaluated : (Tree.ofSource? source).any (fun t =>
      t.decls.map Declaration.enclosing = [none, none, none, none, some 3, some 3] ∧
      t.scopes.map Scope.callables = [[3], [1], [2], [4], [5]]) = true := by
    rw [← written]
    decide +kernel
  obtain ⟨t, read, facts⟩ := (Option.any_eq_true _ _).mp evaluated
  obtain ⟨enclosing, callables⟩ := of_decide_eq_true facts
  exact ⟨t, read, enclosing, callables, wellFormed_of_source.2 source t read⟩

end Tree

end DefectGraph.Source
