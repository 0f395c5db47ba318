import DefectGraph.Proofs.Arena
import DefectGraph.Proofs.BodyReferences

/-!
# References inside other declarations

A declaration inside another one refers to nothing that the other does not refer to: explicit constructor
calls apart, its references stand together, in order, among those of every declaration around it. So what
a match inside a member refers to is not lost when the member is taken for it.

## Main Definitions

* `Declaration.plainReferences` - the references other than explicit constructor calls.
* `Bodies.Same` - two tables know the same type bodies in a range of the code.
* `Count.Reaches` - how far the walk comes in some code, and what it leaves of the table as it was.
* `PassesOn` - the declarations in some code pass their references on to those around them.

## Main Statements

* `collectAll_congr` - what is collected depends on the table only where the code is.
* `PassesOn.invariant` - the walk over code passes references on.
* `Tree.references_passed_on` - so it is in every file, up to the outermost declaration.

## Design Notes

The references of a declaration and those of the one around it come from two walks. They start at different
pieces of code, in different type bodies, and at different times: when the inner one is made, the table has
no type bodies behind the inner declaration yet, and the outer one is made with the table that the whole
body leaves. Both count on from the number of the piece that they start at, so both know each piece by the
same number. The table only grows, by pieces with larger numbers than all before: so whatever is added
behind the inner declaration is not asked for inside it, and the two walks find the same type bodies there.
-/

namespace DefectGraph.Source

open DefectGraph.Java (Code CompilationUnit declarationsOf)

/-! ### Plain references -/

/-- The references of a declaration other than explicit constructor calls. -/
def Declaration.plainReferences (d : Declaration) : List Reference :=
  d.references.filter fun ref => !ref.isRedirect

namespace Declaration

/-- The plain references are those behind the explicit constructor call. -/
theorem plainReferences_eq {d : Declaration} {redirect rest : List Reference}
    (split : d.references = redirect ++ rest) (first : ∀ ref ∈ redirect, ref.isRedirect = true)
    (plain : ∀ ref ∈ rest, ref.isRedirect = false) : d.plainReferences = rest := by
  rw [plainReferences, split]
  exact (filter_append_plain first plain).2

/-- But for the type bodies they stand in, the plain references are those of the code. -/
theorem ComesFrom.plainReferences {code : Code} {d : Declaration} (comes : d.ComesFrom code)
    (scope : ScopeId) :
    d.plainReferences.map (Reference.inBody scope) = referencesAll scope code.inside := by
  obtain ⟨type, rest, split, refers, plain⟩ := comes.exists_plain
  rw [plainReferences_eq split (fun _ => isRedirect_of_mem_opening) plain]
  exact refers scope

end Declaration

/-! ### Walks with two tables -/

/-- The tables have the same type bodies for the pieces of code with numbers in a range. -/
def Bodies.Same (lo hi : Nat) (bodies others : Bodies) : Prop :=
  ∀ node, lo ≤ node → node < hi → bodies.lookup node = others.lookup node

/-- Tables that are the same between two numbers are so on every part. -/
theorem Bodies.Same.mono {lo hi lo' hi' : Nat} {bodies others : Bodies}
    (same : Bodies.Same lo hi bodies others) (low : lo ≤ lo') (high : hi' ≤ hi) :
    Bodies.Same lo' hi' bodies others :=
  fun node least below => same node (Nat.le_trans low least) (Nat.lt_of_lt_of_le below high)

/-- The two tables have the same type body for a piece of code in the range. -/
theorem Bodies.Same.scopeAt_eq {lo hi : Nat} {bodies others : Bodies}
    (same : Bodies.Same lo hi bodies others) {node : Nat} (least : lo ≤ node) (below : node < hi)
    (around : ScopeId) : bodies.scopeAt node around = others.scopeAt node around := by
  rw [scopeAt, scopeAt, same node least below]

section

variable {bodies others : Bodies}

mutual

/-- What is collected in a piece of code depends on the table only where the code is. -/
theorem collect_congr (scope : ScopeId) (node : Nat) : ∀ code : Code,
    Bodies.Same node (node + code.size) bodies others →
      collect bodies scope node code = collect others scope node code
  | .name _, _ | .thisRef, _ | .superRef, _ | .semicolon, _ => rfl
  | .text parts, same | .field parts, same | .group parts, same => by
    rw [Code.size, ← Nat.add_assoc] at same
    exact collectAll_congr scope (node + 1) parts (same.mono (by omega) (by omega))
  | .call _ args, same => by
    rw [Code.size, ← Nat.add_assoc] at same
    rw [collect, collect, collectAll_congr scope _ args (same.mono (by omega) (by omega))]
  | .callOn object _ between args, same => by
    rw [Code.size] at same
    rw [collect, collect, collect_congr scope _ object (same.mono (by omega) (by omega)),
      collectAll_congr scope _ between (same.mono (by omega) (by omega)),
      collectAll_congr scope _ args (same.mono (by omega) (by omega))]
  | .methodRef target _ parts, same => by
    rw [Code.size] at same
    rw [collect, collect, collect_congr scope _ target (same.mono (by omega) (by omega)),
      collectAll_congr scope _ parts (same.mono (by omega) (by omega))]
  | .creation _ parts, same => by
    rw [Code.size, ← Nat.add_assoc] at same
    rw [collect, collect, collectAll_congr scope _ parts (same.mono (by omega) (by omega))]
  | .inlineBody members, same => by
    rw [Code.size, ← Nat.add_assoc] at same
    rw [collect, collect, same.scopeAt_eq (Nat.le_refl node) (by omega),
      collectAll_congr _ _ members (same.mono (by omega) (by omega))]
  | .type _ _ header members, same => by
    rw [Code.size] at same
    rw [collect, collect, same.scopeAt_eq (Nat.le_refl node) (by omega),
      collectAll_congr _ _ header (same.mono (by omega) (by omega)),
      collectAll_congr _ _ members (same.mono (by omega) (by omega))]
  | .method _ header body, same => by
    rw [Code.size] at same
    rw [collect, collect, collectAll_congr _ _ header (same.mono (by omega) (by omega)),
      collectAll_congr _ _ body (same.mono (by omega) (by omega))]
  | .ctor _ header _ redirectParts body, same => by
    rw [Code.size] at same
    rw [collect, collect, collectAll_congr _ _ header (same.mono (by omega) (by omega)),
      collectAll_congr _ _ redirectParts (same.mono (by omega) (by omega)),
      collectAll_congr _ _ body (same.mono (by omega) (by omega))]
  | .constant _ _ header parts, same => by
    rw [Code.size] at same
    rw [collect, collect, collectAll_congr _ _ header (same.mono (by omega) (by omega)),
      collectAll_congr _ _ parts (same.mono (by omega) (by omega))]

/-- So it is for pieces of code. -/
theorem collectAll_congr (scope : ScopeId) (node : Nat) : ∀ codes : List Code,
    Bodies.Same node (node + Code.sizeAll codes) bodies others →
      collectAll bodies scope node codes = collectAll others scope node codes
  | [], _ => rfl
  | code :: rest, same => by
    rw [Code.sizeAll_cons] at same
    rw [collectAll_cons, collectAll_cons, collect_congr scope node code (same.mono (by omega) (by omega)),
      collectAll_congr scope _ rest (same.mono (by omega) (by omega))]

end

end

/-! ### How far the walk comes -/

/-- The walk passes all pieces of the code, and leaves the table as it was for the pieces before it. -/
structure Count.Reaches (n : Count) (codes : List Code) (m : Count) : Prop where
  nodes : m.nodes = n.nodes + Code.sizeAll codes
  before : ∀ node < n.nodes, m.bodies.lookup node = n.bodies.lookup node

namespace Count.Reaches

variable {n m k : Count} {first second members : List Code}

/-- Two walks one after the other reach what the second one reaches. -/
theorem append (reaches : n.Reaches first m) (later : m.Reaches second k) :
    n.Reaches (first ++ second) k where
  nodes := by rw [later.nodes, reaches.nodes, Code.sizeAll_append, Nat.add_assoc]
  before node below := by
    have le : n.nodes ≤ m.nodes := by
      rw [reaches.nodes]
      exact Nat.le_add_right _ _
    rw [later.before node (Nat.lt_of_lt_of_le below le), reaches.before node below]

/-- A walk over plain code reaches what it reaches in its parts. -/
theorem plain {code : Code} (parts : n.pass.Reaches code.parts m) : n.Reaches [code] m where
  nodes := by
    rw [parts.nodes, Code.sizeAll_cons, Code.size_eq, Code.sizeAll_nil]
    show n.nodes + 1 + _ = _
    omega
  before node below := parts.before node (Nat.lt_succ_of_lt below)

/-- The code that opens a type body is entered into the table, and stays there. -/
theorem lookup_enter {header : List Code} (inside : (n.enter header).Reaches members m) :
    m.bodies.lookup n.nodes = some n.scopes := by
  have below : n.nodes < (n.enter header).nodes := by
    show n.nodes < n.nodes + 1 + _
    omega
  rw [inside.before n.nodes below]
  exact List.lookup_cons_self

/-- A type body enters its own number before those inside it. -/
theorem body {header : List Code} {code : Code} (size : code.size = 1 + (Code.sizeAll header +
    Code.sizeAll members)) (inside : (n.enter header).Reaches members m) (inlineBodies : Nat) :
    n.Reaches [code] { m with inlineBodies } where
  nodes := by
    rw [Code.sizeAll_cons, size, Code.sizeAll_nil]
    show m.nodes = _
    rw [inside.nodes]
    show n.nodes + 1 + _ + _ = _
    omega
  before node below := by
    have below' : node < (n.enter header).nodes := by
      show node < n.nodes + 1 + _
      omega
    show m.bodies.lookup node = _
    rw [inside.before node below']
    -- The new entry is for a larger number.
    have other : (node == n.nodes) = false := by simpa using Nat.ne_of_lt below
    show ((n.nodes, n.scopes) :: n.bodies).lookup node = _
    rw [List.lookup_cons, other]

/-- A declaration adds no type body of its own. -/
theorem declaration {header : List Code} {code : Code} (size : code.size = 1 + (Code.sizeAll header +
    Code.sizeAll members)) (inside : (n.declare header).Reaches members m) : n.Reaches [code] m where
  nodes := by
    rw [Code.sizeAll_cons, size, Code.sizeAll_nil, inside.nodes]
    show n.nodes + 1 + _ + _ = _
    omega
  before node below := by
    have below' : node < (n.declare header).nodes := by
      show node < n.nodes + 1 + _
      omega
    exact inside.before node below'

end Count.Reaches

/-! ### The walk passes references on -/

/-- The plain references of what a piece of code declares are what a walk over the code inside collects. -/
theorem Declaration.plainReferences_eq_collectAll {p : Place} {n m : Count} (code : Code)
    {d : Declaration} (references : d.references = p.referencesOf n m code) :
    d.plainReferences = collectAll m.bodies p.scope (insideAt n.nodes code) code.inside :=
  plainReferences_eq (references.trans (declaredReferences_eq _ _ _ _ code))
    (fun _ => isRedirect_of_mem_opening) fun _ => isRedirect_of_mem_collectAll

/-- The plain references of a declaration stand together among those of the declaration around it or, when
that is none of the declarations given, among the references given for what is around them. -/
def Declaration.PassedOn (enclosing : Option DeclId) (decls : List Declaration)
    (around : List Reference) (d : Declaration) : Prop :=
  (d.enclosing = enclosing ∧ d.plainReferences <:+: around) ∨
    ∃ e ∈ decls, d.enclosing = some e.id ∧ d.plainReferences <:+: e.plainReferences

/-- What else is found around the code leaves references together. -/
theorem Declaration.PassedOn.mono {enclosing : Option DeclId} {decls more : List Declaration}
    {around wider : List Reference} {d : Declaration} (passed : d.PassedOn enclosing decls around)
    (inside : around <:+: wider) (kept : ∀ e ∈ decls, e ∈ more) : d.PassedOn enclosing more wider := by
  rcases passed with ⟨top, among⟩ | ⟨e, present, here, among⟩
  · exact Or.inl ⟨top, among.trans inside⟩
  · exact Or.inr ⟨e, kept e present, here, among⟩

/-- The declarations in some code pass on what they refer to: whoever walks over all of the code, with a
table that has the type bodies of the code, collects it. -/
structure PassesOn (p : Place) (n : Count) (codes : List Code) (o : Outline) (m : Count) : Prop where
  reaches : n.Reaches codes m
  passed : ∀ bodies : Bodies, Bodies.Same n.nodes m.nodes m.bodies bodies →
    ∀ d ∈ o.decls, d.PassedOn p.enclosing o.decls (collectAll bodies p.scope n.nodes codes)

namespace PassesOn

variable {p : Place} {n m k : Count} {first second parts members : List Code} {a b o inside : Outline}

/-- What is passed on inside two pieces of code is passed on inside both together. -/
theorem append (before : PassesOn p n first a m) (behind : PassesOn p m second b k) :
    PassesOn p n (first ++ second) (a ++ b) k where
  reaches := before.reaches.append behind.reaches
  passed := by
    intro bodies same d declared
    have start := before.reaches.nodes
    have stop := behind.reaches.nodes
    rw [collectAll_append, ← start]
    rcases List.mem_append.mp declared with here | later
    · -- What the table gets in the second part has numbers behind the first.
      have sameFirst : Bodies.Same n.nodes m.nodes m.bodies bodies := by
        intro node least below
        rw [← behind.reaches.before node below]
        exact same node least (by omega)
      exact (before.passed bodies sameFirst d here).mono (List.prefix_append _ _).isInfix
        fun _ => List.mem_append_left _
    · have sameSecond : Bodies.Same m.nodes k.nodes k.bodies bodies := same.mono (by omega) (by omega)
      exact (behind.passed bodies sameSecond d later).mono (List.suffix_append _ _).isInfix
        fun _ => List.mem_append_right _

/-- Plain code passes on what its parts pass on. -/
theorem plain {code : Code} (isPlain : code.isPlain = true) (inner : PassesOn p n.pass code.parts o m) :
    PassesOn p n [code] o m where
  reaches := inner.reaches.plain
  passed := by
    intro bodies same d declared
    rw [collectAll_singleton, collect_of_isPlain _ _ _ isPlain]
    have sameParts : Bodies.Same n.pass.nodes m.nodes m.bodies bodies :=
      same.mono (Nat.le_succ _) (Nat.le_refl _)
    exact (inner.passed bodies sameParts d declared).mono (List.suffix_append _ _).isInfix
      fun _ present => present

/-- The walk from outside finds the type body that the code opens in the table. -/
theorem scopeAt_eq {place : Place} {header : List Code}
    (inner : PassesOn place (n.enter header) members inside m) {bodies : Bodies}
    (same : Bodies.Same n.nodes m.nodes m.bodies bodies) (around : ScopeId) :
    bodies.scopeAt n.nodes around = n.scopes := by
  have below : n.nodes < m.nodes := by
    rw [inner.reaches.nodes]
    show n.nodes < n.nodes + 1 + _ + _
    omega
  rw [← same.scopeAt_eq (Nat.le_refl _) below, Bodies.scopeAt, inner.reaches.lookup_enter,
    Option.getD_some]

/-- A type body takes part in what is around it with its members, as they are collected in it. -/
theorem body {place : Place} {header : List Code} {code : Code} {scope : Scope}
    {item : List Item → Item} (inner : PassesOn place (n.enter header) members inside m)
    (size : code.size = 1 + (Code.sizeAll header + Code.sizeAll members))
    (collects : ∀ bodies, ∃ front, collect bodies p.scope n.nodes code = front ++
      collectAll bodies (bodies.scopeAt n.nodes p.scope) (n.enter header).nodes members)
    (enclosing : place.enclosing = p.enclosing) (here : place.scope = n.scopes) (inlineBodies : Nat) :
    PassesOn p n [code] (.body scope item inside) { m with inlineBodies } where
  reaches := inner.reaches.body size inlineBodies
  passed := by
    intro bodies same d declared
    obtain ⟨front, split⟩ := collects bodies
    rw [collectAll_singleton, split, inner.scopeAt_eq same, ← here, ← enclosing]
    have sameMembers : Bodies.Same (n.enter header).nodes m.nodes m.bodies bodies :=
      same.mono (by show n.nodes ≤ n.nodes + 1 + _; omega) (Nat.le_refl _)
    exact (inner.passed bodies sameMembers d declared).mono (List.suffix_append _ _).isInfix
      fun _ present => present

/-- A method or constructor gets what the declarations directly inside it refer to, and passes on what its
own walk has collected. -/
theorem callable {code : Code} {kind : DeclKind} {head : Java.Head}
    (isCallable : code.callable? = some (kind, head))
    (inner : PassesOn (p.within n.decls head.typeParams) (n.declare code.header) code.body inside m) :
    PassesOn p n [code]
      (.declaration (callableAt p n.decls kind head (p.referencesOf n m code)) (.callable n.decls)
        inside) m where
  reaches := by
    refine inner.reaches.declaration ?_
    rw [Code.size_eq, Code.parts_of_callable isCallable, Code.sizeAll_append]
  passed := by
    intro bodies same e present
    generalize isDecl : callableAt p n.decls kind head (p.referencesOf n m code) = d at present ⊢
    have plain : d.plainReferences =
        collectAll m.bodies p.scope (n.declare code.header).nodes code.body := by
      rw [← isDecl, Declaration.plainReferences_eq_collectAll code rfl]
      cases code <;> first | rfl | cases isCallable
    have id : d.id = n.decls := by rw [← isDecl]; rfl
    have top : d.enclosing = p.enclosing := by rw [← isDecl]; rfl
    rcases List.mem_cons.mp present with rfl | later
    · -- Both walks come by the same pieces of the body, and both tables have its type bodies.
      have stop := inner.reaches.nodes
      have sameBody : Bodies.Same (n.declare code.header).nodes
          ((n.declare code.header).nodes + Code.sizeAll code.body) m.bodies bodies :=
        same.mono (by show n.nodes ≤ n.nodes + 1 + _; omega) (by omega)
      refine Or.inl ⟨top, ?_⟩
      rw [plain, collectAll_singleton, collect_of_callable _ _ _ isCallable,
        collectAll_congr _ _ _ sameBody]
      exact (List.suffix_append _ _).isInfix
    · right
      -- What the body passes on comes to the declaration itself; the rest has been passed on inside.
      have inBody := inner.passed m.bodies (fun _ _ _ => rfl) e later
      rcases inBody with ⟨around, among⟩ | ⟨f, between, around, among⟩
      · refine ⟨d, List.mem_cons_self, ?_, plain ▸ among⟩
        rw [id]
        exact around
      · exact ⟨f, List.mem_cons_of_mem _ between, around, among⟩

/-- A constant encloses nothing: what the declarations directly inside it refer to goes to those around
it. -/
theorem constant {name : Java.Word} {span : Span} {header : List Code}
    (inner : PassesOn p (n.declare header) parts inside m) :
    PassesOn p n [.constant name span header parts]
      (.declaration
        (constantAt p n.decls name span (p.referencesOf n m (.constant name span header parts)))
        (.enumConstant n.decls) inside) m where
  reaches := inner.reaches.declaration rfl
  passed := by
    intro bodies same e present
    have stop := inner.reaches.nodes
    have start : (n.declare header).nodes = n.nodes + 1 + Code.sizeAll header := rfl
    rcases List.mem_cons.mp present with rfl | later
    · have sameAll : Bodies.Same (n.nodes + 1) (n.nodes + 1 + Code.sizeAll (header ++ parts)) m.bodies
          bodies := by
        rw [Code.sizeAll_append]
        exact same.mono (by omega) (by omega)
      have plain : (constantAt p n.decls name span
          (p.referencesOf n m (.constant name span header parts))).plainReferences =
            collectAll m.bodies p.scope (n.nodes + 1) (header ++ parts) :=
        Declaration.plainReferences_eq_collectAll (.constant name span header parts) rfl
      have whole : collectAll bodies p.scope n.nodes [.constant name span header parts] =
          collectAll m.bodies p.scope (n.nodes + 1) (header ++ parts) := by
        rw [collectAll_singleton, collect, ← collectAll_append, collectAll_congr p.scope _ _ sameAll]
      exact Or.inl ⟨rfl, plain.trans whole.symm ▸ List.infix_rfl⟩
    · have sameParts : Bodies.Same (n.declare header).nodes m.nodes m.bodies bodies :=
        same.mono (by omega) (Nat.le_refl _)
      rw [collectAll_singleton, collect]
      exact (inner.passed bodies sameParts e later).mono (List.suffix_append _ _).isInfix
        fun _ => List.mem_cons_of_mem _

/-- The walk over code passes references on. -/
theorem invariant : WalkInvariant PassesOn where
  nil _ _ := ⟨⟨rfl, fun _ _ => rfl⟩, fun _ _ _ present => by cases present⟩
  append := append
  plain := plain
  inlineBody {p _ _ _ _} inner :=
    inner.body (p := p) (by simp [Code.size]) (fun _ => ⟨[], rfl⟩) rfl rfl _
  namedType {p _ _ _ _} _ _ _ inner := inner.body (p := p) rfl (fun _ => ⟨_, rfl⟩) rfl rfl _
  callable := callable
  constant _ _ _ inner := inner.constant

end PassesOn

/-- Nothing is around the types at the top of a file, so what is around a declaration is in the file. -/
theorem passesOn_unitInvariant : UnitInvariant fun _ _ o _ => ∀ d ∈ o.decls, ∀ id,
    d.enclosing = some id → ∃ e ∈ o.decls, e.id = id ∧ d.plainReferences <:+: e.plainReferences where
  nil _ _ present := by cases present
  package _ rest := rest
  type := by
    intro n m k members rest inside others package name typeParams header found later d declared id around
    rcases List.mem_append.mp declared with here | behind
    · have walked := PassesOn.invariant.outlineAll (.top package n.scopes name typeParams)
        (n.enter header) members
      rw [found] at walked
      rcases walked.passed m.bodies (fun _ _ _ => rfl) d here with ⟨top, -⟩ | ⟨e, present, up, passed⟩
      · cases around.symm.trans top
      · cases around.symm.trans up
        exact ⟨e, List.mem_append_left _ present, rfl, passed⟩
    · obtain ⟨e, present, passed⟩ := later d behind id around
      exact ⟨e, List.mem_append_right _ present, passed⟩

/-! ### Whole files -/

namespace Tree

/-- The plain references of a declaration stand together among those of the declaration around it. -/
theorem passesOn_ofUnit {source : String} {unit : CompilationUnit} {d : Declaration}
    (declared : d ∈ (Tree.ofUnit source unit).decls) {id : DeclId} (around : d.enclosing = some id) :
    ∃ e, (Tree.ofUnit source unit).decl? id = some e ∧
      d.plainReferences <:+: e.plainReferences := by
  obtain ⟨_, passes⟩ := passesOn_unitInvariant.outlineUnit "" .start unit
  obtain ⟨e, present, rfl, passed⟩ := passes d declared id around
  exact ⟨e, decl?_id present, passed⟩

/-- The references are passed on along the whole way up. -/
theorem exists_last_passed {source : String} {unit : CompilationUnit} (steps : Nat) {d : Declaration}
    (declared : d ∈ (Tree.ofUnit source unit).decls) :
    ∃ e ∈ (Tree.ofUnit source unit).decls,
      (chainFor (Tree.ofUnit source unit).enclosing? steps d.id).getLast? = some e.id ∧
        d.plainReferences <:+: e.plainReferences := by
  induction steps generalizing d with
  | zero => exact ⟨d, declared, rfl, List.infix_rfl⟩
  | succ steps ih =>
    cases above : d.enclosing with
    | none =>
      rw [chainFor_of_none _ ((enclosing?_id declared).trans above)]
      exact ⟨d, declared, rfl, List.infix_rfl⟩
    | some up =>
      obtain ⟨e, found, passed⟩ := passesOn_ofUnit declared above
      obtain ⟨top, present, last, onward⟩ := ih (List.mem_of_getElem? found)
      rw [id_of_decl? found] at last
      refine ⟨top, present, ?_, passed.trans onward⟩
      rw [chainFor_of_some _ ((enclosing?_id declared).trans above), List.getLast?_cons, last]
      rfl

/-- What becomes of the references of a declaration. -/
structure ReferencesKept (unit : CompilationUnit) (t : Tree) (d : Declaration) : Prop where
  /-- They are those of its own code. -/
  own : ∃ code, (declarationsOf unit)[d.id]? = some code ∧
    code.heading? = some (d.kind, d.name, d.span) ∧
    ∀ scope, d.plainReferences.map (Reference.inBody scope) = referencesAll scope code.inside
  /-- They stand together, in order, among those of the declaration around it. -/
  enclosing : ∀ id, d.enclosing = some id →
    ∃ e, t.decl? id = some e ∧ d.plainReferences <:+: e.plainReferences
  /-- So they do among those of the outermost one. -/
  outermost : ∃ e, t.decl? (t.outermost d.id) = some e ∧ e.enclosing = none ∧
    d.plainReferences <:+: e.plainReferences

/-- In every file, what a declaration refers to is what its code refers to, and the declarations around it
refer to all of that in the same order. -/
theorem references_passed_on (source : String) (unit : CompilationUnit) (d : Declaration)
    (declared : d ∈ (Tree.ofUnit source unit).decls) :
    (Tree.ofUnit source unit).ReferencesKept unit d := by
  refine ⟨?_, fun _ => passesOn_ofUnit declared, ?_⟩
  · obtain ⟨code, found, comes⟩ := exists_comesFrom (decl?_id declared)
    exact ⟨code, found, comes.heading, comes.plainReferences⟩
  · obtain ⟨last, found, done⟩ := Ends.of_down_of_none enclosing?_lt enclosing?_eq_none d.id
    obtain ⟨e, present, top, passed⟩ := exists_last_passed _ declared
    -- The walk up ends at a declaration with nothing around it, and that is the outermost one.
    cases found.symm.trans top
    refine ⟨e, ?_, (enclosing?_id present).symm.trans done, passed⟩
    rw [outermost, enclosingChain, List.getLastD_eq_getLast?, top]
    exact decl?_id present

/-- A constructor of a local class, inside a method of an inline class body, inside a constructor. -/
theorem references_passed_on_of_local_class :
    ∃ unit, CompilationUnit.ofSource?
        "class A{A(){f();new O(){void m(){g();class L{L(){super(h());k();}}}};n();}}" = some unit ∧
      ∃ t, t = Tree.ofUnit
          "class A{A(){f();new O(){void m(){g();class L{L(){super(h());k();}}}};n();}}" unit ∧
        t.decls.map Declaration.enclosing = [none, some 0, some 1] ∧
        t.decls.map (fun d => d.plainReferences.length) = [6, 3, 2] ∧
        ∃ d, t.decl? 2 = some d ∧ t.ReferencesKept unit d := by
  generalize written :
    "class A{A(){f();new O(){void m(){g();class L{L(){super(h());k();}}}};n();}}" = source
  have evaluated : (CompilationUnit.ofSource? source).any (fun unit =>
      (Tree.ofUnit source unit).decls.map Declaration.enclosing = [none, some 0, some 1] ∧
      (Tree.ofUnit source unit).decls.map (fun d => d.plainReferences.length) = [6, 3, 2]) = true := by
    rw [← written]
    decide +kernel
  obtain ⟨unit, parsed, facts⟩ := (Option.any_eq_true _ _).mp evaluated
  obtain ⟨enclosing, lengths⟩ := of_decide_eq_true facts
  refine ⟨unit, parsed, _, rfl, enclosing, lengths, ?_⟩
  have three : 2 < (Tree.ofUnit source unit).decls.length := by
    rw [← List.length_map, enclosing]
    decide
  exact ⟨_, List.getElem?_eq_getElem three,
    references_passed_on source unit _ (List.getElem_mem three)⟩

end Tree

end DefectGraph.Source
