import DefectGraph.Source.Outline

/-!
# Numbers and links of what the walk finds

The walk over the code of a file gives every declaration and every type body a number when it enters it.
So numbers follow one another without gaps, whatever encloses something was entered before it, and the
members of a type body are those that the walk meets while it is directly inside.

## Main Definitions

* `Outline.Numbered` - what is found is numbered without gaps.
* `Place.Behind` - what is around a place was entered before.
* `Linked` - the links between what is found lead where they should.

## Main Statements

* `Outline.Numbered.invariant` - the walk over code numbers what it finds.
* `Linked.invariant` - the walk over code keeps the links.
* `Linked.exists_outlineUnit` - so it is for whole files.

## Design Notes

The members of a type body that is entered later are not known to be its members by their position, but by
the number of the body: whatever is found outside a type body belongs to a body with another number.
`Linked.callables_eq_nil` is this fact, and the only place where the numbers of two bodies are compared.
-/

namespace DefectGraph.Source

open DefectGraph.Java (Code CompilationUnit)

/-! ### Numbers are places -/

/-- What is found is numbered without gaps, from the first count up to the second. -/
structure Outline.Numbered (n m : Count) (o : Outline) : Prop where
  decls : o.decls.map Declaration.id = List.range' n.decls o.decls.length
  scopes : o.scopes.map Scope.id = List.range' n.scopes o.scopes.length
  declsAfter : m.decls = n.decls + o.decls.length
  scopesAfter : m.scopes = n.scopes + o.scopes.length

namespace Outline.Numbered

variable {n m k : Count} {a b o inside : Outline}

theorem empty (n : Count) : Outline.empty.Numbered n n := ⟨rfl, rfl, rfl, rfl⟩

/-- Numbers go on from one outline to the next. -/
theorem append (first : a.Numbered n m) (second : b.Numbered m k) : (a ++ b).Numbered n k where
  decls := by
    rw [decls_append, List.map_append, first.decls, second.decls, first.declsAfter, List.length_append,
      List.range'_append_1]
  scopes := by
    rw [scopes_append, List.map_append, first.scopes, second.scopes, first.scopesAfter,
      List.length_append, List.range'_append_1]
  declsAfter := by
    rw [second.declsAfter, first.declsAfter, decls_append, List.length_append, Nat.add_assoc]
  scopesAfter := by
    rw [second.scopesAfter, first.scopesAfter, scopes_append, List.length_append, Nat.add_assoc]

/-- A type body has the number before those of its members. -/
theorem body {header : List Code} (scope : Scope) (item : List Item → Item) (id : scope.id = n.scopes)
    (members : inside.Numbered (n.enter header) m) (inlineBodies : Nat) :
    (Outline.body scope item inside).Numbered n { m with inlineBodies } where
  decls := members.decls
  scopes := by
    show scope.id :: inside.scopes.map Scope.id = List.range' n.scopes (inside.scopes.length + 1)
    rw [members.scopes, id, List.range'_succ]
    rfl
  declsAfter := members.declsAfter
  scopesAfter := by
    show m.scopes = n.scopes + (inside.scopes.length + 1)
    rw [members.scopesAfter, Nat.add_comm inside.scopes.length, ← Nat.add_assoc]
    rfl

/-- A declaration has the number before those of the declarations in its body. -/
theorem declaration {header : List Code} (d : Declaration) (item : List Item → Item)
    (id : d.id = n.decls) (inner : inside.Numbered (n.declare header) m) :
    (Outline.declaration d item inside).Numbered n m where
  decls := by
    show d.id :: inside.decls.map Declaration.id = List.range' n.decls (inside.decls.length + 1)
    rw [inner.decls, id, List.range'_succ]
    rfl
  scopes := inner.scopes
  declsAfter := by
    show m.decls = n.decls + (inside.decls.length + 1)
    rw [inner.declsAfter, Nat.add_comm inside.decls.length, ← Nat.add_assoc]
    rfl
  scopesAfter := inner.scopesAfter

/-- The walk numbers declarations and type bodies in the order in which it finds them. -/
theorem invariant : WalkInvariant fun _ n _ o m => o.Numbered n m where
  nil _ n := empty n
  append := append
  plain _ parts := ⟨parts.decls, parts.scopes, parts.declsAfter, parts.scopesAfter⟩
  inlineBody members := members.body _ _ rfl _
  namedType _ _ _ members := members.body _ _ rfl _
  callable _ inner := inner.declaration _ _ rfl
  constant _ _ _ inner := inner.declaration _ _ rfl

/-- A type body has one of the numbers of its outline. -/
theorem mem_scopes (numbered : o.Numbered n m) {s : Scope} (mem : s ∈ o.scopes) :
    n.scopes ≤ s.id ∧ s.id < m.scopes := by
  have id : s.id ∈ o.scopes.map Scope.id := List.mem_map_of_mem mem
  rw [numbered.scopes, List.mem_range'_1] at id
  rw [numbered.scopesAfter]
  exact id

end Outline.Numbered

/-! ### Links -/

@[simp]
theorem callablesIn_append (a b : List Declaration) (scope : ScopeId) :
    callablesIn (a ++ b) scope = callablesIn a scope ++ callablesIn b scope := by
  simp [callablesIn]

/-- The links between what is found, where `home` is the number and the binary name of the type body
around it, if there is one. -/
structure Linked (home : Option (ScopeId × String)) (n : Count) (o : Outline) (m : Count) : Prop where
  numbered : o.Numbered n m
  enclosing : ∀ d ∈ o.decls, ∀ up ∈ d.enclosing, up < d.id
  owner : ∀ d ∈ o.decls, (d.scope, d.owner) ∈ home ∨
    ∃ s ∈ o.scopes, s.id = d.scope ∧ s.binaryName = d.owner
  parent : ∀ s ∈ o.scopes, ∀ up ∈ s.parent, up < s.id
  /-- Only a named type can stand at the top of a file. -/
  named : ∀ s ∈ o.scopes, s.parent = none → s.name ≠ none
  callables : ∀ s ∈ o.scopes, s.callables = callablesIn o.decls s.id

/-- What is around the place was entered before. -/
structure Place.Behind (p : Place) (n : Count) : Prop where
  scope : p.scope < n.scopes
  enclosing : ∀ up ∈ p.enclosing, up < n.decls

namespace Linked

variable {home : Option (ScopeId × String)} {n m k : Count} {a b o inside : Outline}

theorem empty (home : Option (ScopeId × String)) (n : Count) : Linked home n .empty n where
  numbered := .empty n
  enclosing _ mem := by cases mem
  owner _ mem := by cases mem
  parent _ mem := by cases mem
  named _ mem := by cases mem
  callables _ mem := by cases mem

theorem scopes_le (linked : Linked home n o m) : n.scopes ≤ m.scopes := by
  rw [linked.numbered.scopesAfter]
  exact Nat.le_add_right _ _

theorem decls_le (linked : Linked home n o m) : n.decls ≤ m.decls := by
  rw [linked.numbered.declsAfter]
  exact Nat.le_add_right _ _

/-- A type body that is neither around the code nor in it has no members there. -/
theorem callables_eq_nil (linked : Linked home n o m) {scope : ScopeId}
    (away : ∀ place ∈ home, place.1 ≠ scope) (outside : scope < n.scopes ∨ m.scopes ≤ scope) :
    callablesIn o.decls scope = [] := by
  have none : o.decls.filter (fun d => d.scope == scope && d.isCallable) = [] := by
    refine List.filter_eq_nil_iff.mpr fun d mem member => ?_
    have same : d.scope = scope := by
      rw [Bool.and_eq_true, beq_iff_eq] at member
      exact member.1
    rcases linked.owner d mem with here | ⟨s, found, id, _⟩
    · exact away _ here same
    · have range := linked.numbered.mem_scopes found
      rw [id, same] at range
      exact outside.elim (Nat.not_lt_of_le range.1) (Nat.not_le_of_lt range.2)
  unfold callablesIn
  rw [none, List.map_nil]

/-- Links in two outlines one after the other are links in both together. -/
theorem append (first : Linked home n a m) (second : Linked home m b k)
    (around : ∀ place ∈ home, place.1 < n.scopes) : Linked home n (a ++ b) k where
  numbered := first.numbered.append second.numbered
  enclosing d mem := (List.mem_append.mp mem).elim (first.enclosing d) (second.enclosing d)
  owner := by
    intro d mem
    rcases List.mem_append.mp mem with mem | mem
    · exact (first.owner d mem).imp_right fun ⟨s, found, same⟩ =>
        ⟨s, List.mem_append_left _ found, same⟩
    · exact (second.owner d mem).imp_right fun ⟨s, found, same⟩ =>
        ⟨s, List.mem_append_right _ found, same⟩
  parent s mem := (List.mem_append.mp mem).elim (first.parent s) (second.parent s)
  named s mem := (List.mem_append.mp mem).elim (first.named s) (second.named s)
  callables := by
    -- the number of a type body says in which part it was found, and its members are in that part
    intro s mem
    rw [Outline.decls_append, callablesIn_append]
    rcases List.mem_append.mp mem with mem | mem
    · have range := first.numbered.mem_scopes mem
      rw [second.callables_eq_nil (fun place here => ?_) (Or.inl range.2), List.append_nil]
      · exact first.callables s mem
      · exact Nat.ne_of_lt (Nat.lt_of_lt_of_le (around place here) range.1)
    · have range := second.numbered.mem_scopes mem
      rw [first.callables_eq_nil (fun place here => ?_) (Or.inr range.1), List.nil_append]
      · exact second.callables s mem
      · exact Nat.ne_of_lt (Nat.lt_of_lt_of_le (around place here)
          (Nat.le_trans first.scopes_le range.1))

/-- A type body is entered before what it holds, and lists the members found directly inside it. -/
theorem body {header : List Code} (scope : Scope) (item : List Item → Item) (id : scope.id = n.scopes)
    (members : Linked (some (n.scopes, scope.binaryName)) (n.enter header) inside m)
    (parent : ∀ up ∈ scope.parent, up < n.scopes) (named : scope.parent = none → scope.name ≠ none)
    (inlineBodies : Nat) :
    Linked home n (Outline.body scope item inside) { m with inlineBodies } where
  numbered := members.numbered.body scope item id inlineBodies
  enclosing := members.enclosing
  owner := by
    intro d mem
    right
    rcases members.owner d mem with here | ⟨s, found, same⟩
    · obtain ⟨same, same'⟩ := Prod.mk.inj (Option.some.inj here)
      exact ⟨_, List.mem_cons_self, id.trans same, same'⟩
    · exact ⟨s, List.mem_cons_of_mem _ found, same⟩
  parent := by
    intro s mem
    rcases List.mem_cons.mp mem with rfl | mem
    · intro up above
      show up < scope.id
      rw [id]
      exact parent up above
    · exact members.parent s mem
  named := by
    intro s mem
    rcases List.mem_cons.mp mem with rfl | mem
    · exact named
    · exact members.named s mem
  callables := by
    intro s mem
    rcases List.mem_cons.mp mem with rfl | mem
    · rfl
    · exact members.callables s mem

/-- A declaration is entered before what is inside it, and is a member of the body around it. -/
theorem declaration {header : List Code} (d : Declaration) (item : List Item → Item)
    (id : d.id = n.decls) (enclosing : ∀ up ∈ d.enclosing, up < n.decls)
    (here : (d.scope, d.owner) ∈ home) (around : ∀ place ∈ home, place.1 < n.scopes)
    (inner : Linked home (n.declare header) inside m) :
    Linked home n (Outline.declaration d item inside) m where
  numbered := inner.numbered.declaration d item id
  enclosing := by
    intro e mem
    rcases List.mem_cons.mp mem with rfl | mem
    · intro up above
      rw [id]
      exact enclosing up above
    · exact inner.enclosing e mem
  owner := by
    intro e mem
    rcases List.mem_cons.mp mem with rfl | mem
    · exact Or.inl here
    · exact inner.owner e mem
  parent := inner.parent
  named := inner.named
  callables := by
    -- the declaration is a member of the body around it, whose number is smaller than those inside
    intro s mem
    have range : n.scopes ≤ s.id := (inner.numbered.mem_scopes mem).1
    have other : d.scope ≠ s.id := Nat.ne_of_lt (Nat.lt_of_lt_of_le (around _ here) range)
    show s.callables = ((d :: inside.decls).filter _).map _
    rw [List.filter_cons_of_neg (by simp [other])]
    exact inner.callables s mem

/-- The walk over code inside a type body keeps the links. -/
theorem invariant : WalkInvariant fun p n _ o m =>
    p.Behind n → Linked (some (p.scope, p.binaryName)) n o m where
  nil _ n _ := empty _ n
  append := by
    intro p n m k _ _ a b first second around
    have linked := first around
    have later : p.Behind m := ⟨Nat.lt_of_lt_of_le around.scope linked.scopes_le,
      fun up above => Nat.lt_of_lt_of_le (around.enclosing up above) linked.decls_le⟩
    exact linked.append (second later) (by rintro _ ⟨⟩; exact around.scope)
  plain := by
    intro p n m code o _ parts around
    have linked := parts ⟨around.scope, around.enclosing⟩
    exact { linked with numbered := ⟨linked.numbered.decls, linked.numbered.scopes,
      linked.numbered.declsAfter, linked.numbered.scopesAfter⟩ }
  inlineBody := by
    intro p n m _ inside members around
    refine body _ _ rfl (members ⟨Nat.lt_succ_self _, around.enclosing⟩) ?_ (by rintro ⟨⟩) _
    rintro _ ⟨⟩
    exact around.scope
  namedType := by
    intro p n m _ inside name typeParams header members around
    refine body _ _ rfl (members ⟨Nat.lt_succ_self _, around.enclosing⟩) ?_ (by rintro ⟨⟩) _
    rintro _ ⟨⟩
    exact around.scope
  callable := by
    intro p n m code inside kind head _ inner around
    have inBody : (p.within n.decls head.typeParams).Behind (n.declare code.header) :=
      ⟨around.scope, by rintro _ ⟨⟩; exact Nat.lt_succ_self _⟩
    exact declaration _ _ rfl around.enclosing rfl (by rintro _ ⟨⟩; exact around.scope) (inner inBody)
  constant := by
    intro p n m _ inside name span header inner around
    have inBody : p.Behind (n.declare header) :=
      ⟨around.scope, fun up above => Nat.lt_succ_of_lt (around.enclosing up above)⟩
    exact declaration _ _ rfl around.enclosing rfl (by rintro _ ⟨⟩; exact around.scope) (inner inBody)

/-- What stands at the top of a file is linked, with nothing around it. -/
theorem unitInvariant : UnitInvariant fun n _ o m => Linked none n o m where
  nil n := empty none n
  package _ rest := rest
  type := by
    intro n m k members rest inside others package name typeParams header found linked
    have walked := invariant.outlineAll (.top package n.scopes name typeParams) (n.enter header)
      members ⟨Nat.lt_succ_self _, by rintro _ ⟨⟩⟩
    rw [found] at walked
    exact (body _ _ rfl walked (by rintro _ ⟨⟩) (by rintro _ ⟨⟩) m.inlineBodies).append linked
      (by rintro _ ⟨⟩)

/-- What the walk over a file finds is linked. -/
theorem exists_outlineUnit (package : String) (unit : CompilationUnit) :
    ∃ m, Linked none .start (outlineUnit package .start unit).1 m :=
  unitInvariant.outlineUnit package .start unit

end Linked

end DefectGraph.Source
