import DefectGraph.Proofs.BodyReferences
import DefectGraph.Proofs.EmptyStatements
import DefectGraph.Proofs.Extraction

/-!
# Constructors that call the constructor of their superclass

Whether a constructor goes on after `super(...)` is read off its own statements, for every node of a
neighborhood, and no code around it or inside it matters.

## Main Definitions

* `Node.Noted` - the flags of a node, by whether its declaration has been visited.
* `ChainsDecided` - the flags of a neighborhood, by the code of its declarations.

## Main Statements

* `ExploreInvariant.noted` - a visit sets the flags of the node visited, and nothing else does.
* `Seeded.flags` - all flags say what the references say.
* `extract_decides_chains` - so they are set by the code.

## Design Notes

A declaration that breaks off opens with `super(...)`, so it leads nowhere, and every node is for a
declaration that has been visited.

Empty statements do not count: a constructor that has nothing but these behind `super(...)` does not go on.
What the condition on the statements says of the text is `Grammar.constructorRest_opensWithSuper`.
-/

namespace DefectGraph.Graph

open DefectGraph.Source
open DefectGraph.Java (Code CompilationUnit declarationsOf)

/-! ### What references say of the code -/

/-- The opening of a piece of code is a `super(...)` exactly when it is a constructor that opens with
one. -/
theorem mem_opening_iff {type name : String} {isLast : Bool} {code : Code} :
    .redirect .toSuper name isLast ∈ code.opening type ↔
      name = type ∧ ∃ behind, code.OpensWithSuper behind ∧ behind.all Code.isSemicolon = isLast := by
  constructor
  · intro present
    unfold Code.opening at present
    split at present
    · rename_i head header kind parts behind
      cases List.mem_singleton.mp present
      exact ⟨rfl, behind, ⟨head, header, parts, rfl⟩, rfl⟩
    · cases present
  · rintro ⟨rfl, behind, ⟨head, header, parts, rfl⟩, rfl⟩
    exact List.mem_singleton_self _

/-- The scan looks for a `super(...)` that is the last statement. -/
theorem isLastSuper_iff {ref : Reference} :
    isLastSuper ref = true ↔ ∃ type, ref = .redirect .toSuper type true := by
  unfold isLastSuper
  split <;> simp_all

section

variable {tree : Tree} {id : DeclId} {d : Declaration} {code : Code}

/-- Only the code's own opening can be a `super(...)` among the references. -/
theorem super_mem_references_iff (found : tree.decl? id = some d) (comes : d.ComesFrom code) {isLast : Bool} :
    (∃ type, .redirect .toSuper type isLast ∈ referencesOf tree id) ↔
      ∃ behind, code.OpensWithSuper behind ∧ behind.all Code.isSemicolon = isLast := by
  obtain ⟨type, rest, split, -, plain⟩ := comes.exists_plain
  rw [referencesOf, found, Option.map_some, Option.getD_some, split]
  constructor
  · rintro ⟨name, present⟩
    rcases List.mem_append.mp present with own | inside
    · exact (mem_opening_iff.mp own).2
    · cases plain _ inside
  · intro opens
    exact ⟨type, List.mem_append_left _ (mem_opening_iff.mpr ⟨rfl, opens⟩)⟩

/-- A declaration breaks off when a statement that is not empty stands behind `super(...)`. -/
theorem breaksOff_iff (found : tree.decl? id = some d) (comes : d.ComesFrom code) :
    BreaksOff tree id ↔ ∃ behind, code.OpensWithSuper behind ∧ ∃ s ∈ behind, s ≠ .semicolon := by
  rw [BreaksOff, super_mem_references_iff found comes]
  simp only [List.all_eq_false, Code.isSemicolon_iff, ne_eq]

/-- The `super(...)` comes before all that may lead elsewhere. -/
theorem references_of_opensWithSuper (found : tree.decl? id = some d) (comes : d.ComesFrom code)
    {behind : List Code} (opens : code.OpensWithSuper behind) :
    ∃ type rest,
      referencesOf tree id = .redirect .toSuper type (behind.all Code.isSemicolon) :: rest := by
  obtain ⟨type, rest, split, -⟩ := comes.references
  obtain ⟨head, header, parts, rfl⟩ := opens
  refine ⟨type, rest, ?_⟩
  rw [referencesOf, found, Option.map_some, Option.getD_some, split]
  rfl

/-- The scan notes a `super(...)` with nothing but empty statements behind it. -/
theorem explicitSuper_iff (found : tree.decl? id = some d) (comes : d.ComesFrom code) :
    (scan tree id).explicitSuper = true ↔
      ∃ behind, code.OpensWithSuper behind ∧ ∀ s ∈ behind, s = .semicolon := by
  show ((referencesOf tree id).takeWhile fun ref => !isBreak ref).any isLastSuper = true ↔ _
  constructor
  · intro some
    obtain ⟨ref, read, last⟩ := List.any_eq_true.mp some
    obtain ⟨type, rfl⟩ := isLastSuper_iff.mp last
    have present := (List.takeWhile_sublist _).subset read
    obtain ⟨behind, opens, empty⟩ := (super_mem_references_iff found comes).mp ⟨type, present⟩
    exact ⟨behind, opens, fun s among => Code.isSemicolon_iff.mp (List.all_eq_true.mp empty s among)⟩
  · rintro ⟨behind, opens, empty⟩
    obtain ⟨type, rest, first⟩ := references_of_opensWithSuper found comes opens
    have last : behind.all Code.isSemicolon = true :=
      List.all_eq_true.mpr fun s among => Code.isSemicolon_iff.mpr (empty s among)
    rw [first, last]
    rfl

/-- A declaration that breaks off leads nowhere. -/
theorem not_pointsAt_of_breaksOff (found : tree.decl? id = some d) (comes : d.ComesFrom code)
    (breaks : BreaksOff tree id) (target : DeclId) : ¬ PointsAt tree id target := by
  obtain ⟨behind, opens, goesOn⟩ := (super_mem_references_iff found comes).mp breaks
  obtain ⟨type, others, first⟩ := references_of_opensWithSuper found comes opens
  rintro ⟨before, ref, after, split, early, leads⟩
  rw [first, goesOn] at split
  -- The reference that leads somewhere is not the opening `super(...)`, nor can it stand behind it.
  cases before with
  | nil =>
    cases split
    cases leads
  | cons other before =>
    cases split
    exact early type List.mem_cons_self

/-- The explicit constructor calls among the references are the code's own opening. -/
theorem filter_isRedirect_references (comes : d.ComesFrom code) :
    ∃ type, d.references.filter Reference.isRedirect = code.opening type := by
  obtain ⟨type, rest, split, -, plain⟩ := comes.exists_plain
  refine ⟨type, ?_⟩
  rw [split]
  exact (filter_append_plain (fun _ => isRedirect_of_mem_opening) plain).1

end

/-! ### Flags -/

/-- The flags of a node are those of a fresh one while its declaration has not been visited, and say what its
references say afterwards. -/
def Node.Noted (tree : Tree) (visited : List DeclId) (n : Node) : Prop :=
  n.valid = !(visited.contains n.decl && (scan tree n.decl).invalid) ∧
    n.explicitSuper = (visited.contains n.decl && (scan tree n.decl).explicitSuper)

/-- Nothing has been noted on a node before its declaration is visited. -/
theorem Node.noted_of_unvisited {tree : Tree} {visited : List DeclId} {n : Node}
    (unvisited : n.decl ∉ visited) : n.Noted tree visited ↔ n.valid = true ∧ n.explicitSuper = false := by
  simp [Node.Noted, unvisited]

/-- A visit sets the flags of the node visited, and nothing else does. -/
theorem ExploreInvariant.noted (template : Template) (tree : Tree) :
    ExploreInvariant template tree fun p =>
      (∀ decl ∈ p.visited, decl ∈ p.hood.keys) ∧ ∀ n ∈ p.hood.nodes, n.Noted tree p.visited where
  mark {p decl} holds node := by
    obtain ⟨known, noted⟩ := holds
    refine ⟨?_, fun n present => ?_⟩
    · rw [keys_mark]
      exact List.forall_mem_cons.mpr ⟨node, known⟩
    · obtain ⟨old, before, rfl⟩ := List.mem_map.mp present
      obtain ⟨valid, explicitSuper⟩ := noted old before
      by_cases here : old.decl = decl
      · -- Noting the same thing twice changes nothing, so it does not matter if this is a second visit.
        subst here
        rw [if_pos (beq_self_eq_true _)]
        simp +contextual [Node.Noted, Progress.mark, valid, explicitSuper]
      · rw [if_neg (by simpa using here)]
        simp [Node.Noted, Progress.mark, here, valid, explicitSuper]
  addTarget {p source target} holds node points := by
    obtain ⟨known, noted⟩ := holds
    have visited := addTarget_visited template tree source p target
    refine ⟨fun decl seen => ?_, ?_⟩
    · rw [visited] at seen
      exact (mem_keys_addTarget template tree p source target decl).mpr (Or.inl (known decl seen))
    · rw [visited]
      by_cases there : target ∈ p.hood.keys
      · rw [addTarget_of_mem template tree p source target there, Neighborhood.nodes_addEdge]
        exact noted
      · rw [addTarget_of_notMem template tree p source target there, Neighborhood.nodes_addEdge,
          Neighborhood.putNode_of_notMem _ _ there]
        intro n present
        rcases List.mem_append.mp present with old | new
        · exact noted n old
        · -- A declaration gets its node before it is visited, so a new node is for one that has not been.
          cases List.mem_singleton.mp new
          have unvisited : target ∉ p.visited := fun seen => there (known target seen)
          exact (Node.noted_of_unvisited unvisited).mpr ⟨rfl, rfl⟩

/-! ### After extraction -/

/-- When nothing that breaks off leads anywhere, every node is for a declaration that has been visited. -/
theorem Exploring.visited_of_mem_keys {tree : Tree} {seeds : List DeclId} {p : Progress}
    (explored : Exploring tree seeds p []) (started : ∀ seed ∈ seeds, seed ∈ p.visited)
    (goOn : ∀ decl target, PointsAt tree decl target → ¬ BreaksOff tree decl) {decl : DeclId}
    (key : decl ∈ p.hood.keys) : decl ∈ p.visited := by
  rcases (explored.keys decl).mp key with seed | ⟨other, seen, points⟩
  · exact started decl seed
  · -- What leads to the node goes on, and nothing waits on the stack.
    exact (explored.frontier other seen (goOn other decl points) decl points).resolve_right
      List.not_mem_nil

/-- In a file, what leads somewhere does not break off. -/
theorem not_breaksOff_of_pointsAt {source : String} {unit : CompilationUnit} {decl target : DeclId}
    (points : PointsAt (Tree.ofUnit source unit) decl target) :
    ¬ BreaksOff (Tree.ofUnit source unit) decl := by
  intro breaks
  cases found : (Tree.ofUnit source unit).decl? decl with
  | none =>
    obtain ⟨type, present⟩ := breaks
    rw [referencesOf, found] at present
    cases present
  | some d =>
    obtain ⟨code, _, comes⟩ := Tree.exists_comesFrom found
    exact not_pointsAt_of_breaksOff found comes breaks target points

/-- After exploring from unmarked seeds, where nothing that breaks off leads anywhere, the flags of all nodes
say what the references say, and edges lead to what is pointed at. -/
theorem Seeded.flags {seeds : List Node} {merged : Neighborhood} (seeded : Seeded seeds merged)
    (template : Template) {tree : Tree} (ids : Ids) (events : List Event)
    (declared : ∀ seed ∈ seeds, seed.decl < tree.decls.length)
    (unmarked : ∀ seed ∈ seeds, seed.valid = true ∧ seed.explicitSuper = false)
    (goOn : ∀ decl target, PointsAt tree decl target → ¬ BreaksOff tree decl) {p : Progress}
    (done : exploreEach template tree (.start merged ids events) (seeds.map Node.decl) = p) :
    (∀ n ∈ p.hood.nodes, n.decl < tree.decls.length ∧ (n.valid = false ↔ BreaksOff tree n.decl) ∧
      n.explicitSuper = (scan tree n.decl).explicitSuper) ∧
    ∀ source target, (source, target) ∈ p.hood.ends → PointsAt tree source target := by
  have inside : ∀ decl ∈ seeds.map Node.decl, decl < tree.decls.length :=
    List.forall_mem_map.mpr declared
  have start : ∀ n ∈ merged.nodes, n.Noted tree [] := by
    intro n present
    obtain ⟨seed, among, same⟩ := seeded.exists_seed present
    rw [Node.noted_of_unvisited List.not_mem_nil, same]
    exact unmarked seed among
  obtain ⟨explored, started⟩ := (seeded.exploring tree ids events).exploreEach template inside
    (seeds.map Node.decl) fun _ seed => seed
  obtain ⟨-, noted⟩ := (ExploreInvariant.noted template tree).exploreEach
    (.start merged ids events) (seeds.map Node.decl)
    ⟨fun _ seen => absurd seen List.not_mem_nil, start⟩ fun decl => (seeded.keys decl).mpr
  rw [done] at explored started noted
  refine ⟨fun n present => ?_, fun source target edge => ((explored.ends source target).mp edge).2⟩
  have seen : n.decl ∈ p.visited :=
    explored.visited_of_mem_keys (fun seed among => started seed (Or.inr among)) goOn
      (List.mem_map_of_mem present)
  obtain ⟨valid, explicitSuper⟩ := noted n present
  rw [List.contains_iff_mem.mpr seen, Bool.true_and] at valid explicitSuper
  refine ⟨(explored.visited _ seen).declared inside, ?_, explicitSuper⟩
  rw [valid, Bool.not_eq_false', scan_invalid_iff]

/-- The code of a file decides which nodes of a neighborhood are invalid. -/
structure ChainsDecided (unit : CompilationUnit) (tree : Tree) (hood : Neighborhood) : Prop where
  /-- A node is invalid when its code is a constructor with a statement behind `super(...)` that is not empty,
  and is marked when it is a constructor with none but empty statements behind it. -/
  flags : ∀ n ∈ hood.nodes, ∃ d code, tree.decl? n.decl = some d ∧
    (declarationsOf unit)[n.decl]? = some code ∧ code.heading? = some (d.kind, d.name, d.span) ∧
    (n.valid = false ↔ ∃ behind, code.OpensWithSuper behind ∧ ∃ s ∈ behind, s ≠ .semicolon) ∧
    (n.explicitSuper = true ↔ ∃ behind, code.OpensWithSuper behind ∧ ∀ s ∈ behind, s = .semicolon)
  /-- No edge starts at an invalid node. -/
  edges : ∀ n ∈ hood.nodes, n.valid = false → ∀ target, (n.decl, target) ∉ hood.ends
  /-- The explicit constructor calls that a declaration refers to are its own: it has none of those of the
  constructors inside it. -/
  own : ∀ d ∈ tree.decls, ∃ code type, (declarationsOf unit)[d.id]? = some code ∧
    d.references.filter Reference.isRedirect = code.opening type

/-- Unless merging the seeds overflows, extraction from unmarked seeds decides for every node whether its
declaration goes on after `super(...)`. -/
theorem extract_decides_chains (template : Template) (source : String) (unit : CompilationUnit)
    (seeds : List Node) (ids : Ids)
    (declared : ∀ seed ∈ seeds, seed.decl < (Tree.ofUnit source unit).decls.length)
    (unmarked : ∀ seed ∈ seeds, seed.valid = true ∧ seed.explicitSuper = false)
    (merges : (addSeeds? seeds).isSome = true) :
    ∃ hood events after,
      extract? template (Tree.ofUnit source unit) seeds ids = some (hood, events, after) ∧
        ChainsDecided unit (Tree.ofUnit source unit) hood := by
  obtain ⟨⟨merged, mergeEvents⟩, merge⟩ := Option.isSome_iff_exists.mp merges
  obtain ⟨flags, ends⟩ := (Seeded.ofSeeds merge).flags template ids mergeEvents declared unmarked
    (fun _ _ => not_breaksOff_of_pointsAt) rfl
  refine ⟨_, _, _, extract?_eq_some template _ ids merge, ?_, ?_, ?_⟩
  · intro n present
    obtain ⟨bound, valid, explicitSuper⟩ := flags n present
    have found : (Tree.ofUnit source unit).decl? n.decl = some (Tree.ofUnit source unit).decls[n.decl] :=
      List.getElem?_eq_getElem bound
    obtain ⟨code, declaring, comes⟩ := Tree.exists_comesFrom found
    refine ⟨_, code, found, declaring, comes.heading, valid.trans (breaksOff_iff found comes), ?_⟩
    rw [explicitSuper, explicitSuper_iff found comes]
  · intro n present invalid target edge
    obtain ⟨-, valid, -⟩ := flags n present
    exact not_breaksOff_of_pointsAt (ends _ _ edge) (valid.mp invalid)
  · intro d declared
    obtain ⟨code, declaring, comes⟩ := Tree.exists_comesFrom (Tree.decl?_id declared)
    obtain ⟨type, own⟩ := filter_isRedirect_references comes
    exact ⟨code, type, declaring, own⟩

/-- A method that constructs two classes, one with a constructor that goes on and one with a constructor that
does not. It holds a local class whose constructors call `super(...)` and `this(...)`. -/
theorem extract_decides_chains_of_local_class :
    ∃ unit, CompilationUnit.ofSource?
        "class A{A(){super();f();}void f(){new A();new B();class L{L(){super();}L(){this();}}}class B{B(){super();}}}"
          = some unit ∧
      let tree := Tree.ofUnit
        "class A{A(){super();f();}void f(){new A();new B();class L{L(){super();}L(){this();}}}class B{B(){super();}}}" unit
      let template : Template := ⟨"p", "h", "p/classes/k.java", true⟩
      let seed := template.node tree 1 0
      (∀ n ∈ [seed], n.decl < tree.decls.length) ∧
        (∀ n ∈ [seed], n.valid = true ∧ n.explicitSuper = false) ∧ (addSeeds? [seed]).isSome = true ∧
        ∃ hood events after, extract? template tree [seed] ⟨1, 0⟩ = some (hood, events, after) ∧
          hood.nodes.map (fun n => (n.decl, n.valid, n.explicitSuper)) =
            [(1, true, false), (0, false, false), (4, true, true)] ∧
          ChainsDecided unit tree hood := by
  generalize written :
    "class A{A(){super();f();}void f(){new A();new B();class L{L(){super();}L(){this();}}}class B{B(){super();}}}"
      = source
  have evaluated : (CompilationUnit.ofSource? source).any (fun unit =>
      1 < (Tree.ofUnit source unit).decls.length ∧
      (extract? ⟨"p", "h", "p/classes/k.java", true⟩ (Tree.ofUnit source unit)
        [Template.node ⟨"p", "h", "p/classes/k.java", true⟩ (Tree.ofUnit source unit) 1 0] ⟨1, 0⟩).map
          (fun result => result.1.nodes.map (fun n => (n.decl, n.valid, n.explicitSuper))) =
        some [(1, true, false), (0, false, false), (4, true, true)]) = true := by
    rw [← written]
    decide +kernel
  obtain ⟨unit, parsed, facts⟩ := (Option.any_eq_true _ _).mp evaluated
  obtain ⟨bound, flags⟩ := of_decide_eq_true facts
  obtain ⟨hood, events, after, extracted, decided⟩ :=
    extract_decides_chains ⟨"p", "h", "p/classes/k.java", true⟩ source unit
      [Template.node ⟨"p", "h", "p/classes/k.java", true⟩ (Tree.ofUnit source unit) 1 0] ⟨1, 0⟩
      (List.forall_mem_singleton.mpr bound) (List.forall_mem_singleton.mpr ⟨rfl, rfl⟩) rfl
  rw [extracted, Option.map_some] at flags
  exact ⟨unit, parsed, List.forall_mem_singleton.mpr bound, List.forall_mem_singleton.mpr ⟨rfl, rfl⟩, rfl,
    hood, events, after, extracted, Option.some.inj flags, decided⟩

/-- A constructor with an empty statement behind `super(...)` counts as one that does nothing else. -/
theorem empty_statement_goes_unnoticed :
    ∃ tree, Tree.ofSource? "class A extends B { A() { super(); ; } }" = some tree ∧
      let template : Template := ⟨"p", "h", "p/classes/k.java", true⟩
      (extract? template tree [template.node tree 0 0] ⟨1, 0⟩).map
          (fun result => result.1.nodes.map fun n => (n.decl, n.valid, n.explicitSuper)) =
        some [(0, true, true)] := by
  generalize written : "class A extends B { A() { super(); ; } }" = source
  have evaluated : (Tree.ofSource? source).any (fun tree =>
      (extract? ⟨"p", "h", "p/classes/k.java", true⟩ tree
        [Template.node ⟨"p", "h", "p/classes/k.java", true⟩ tree 0 0] ⟨1, 0⟩).map
          (fun result => result.1.nodes.map fun n => (n.decl, n.valid, n.explicitSuper)) =
        some [(0, true, true)]) = true := by
    rw [← written]
    decide +kernel
  obtain ⟨tree, read, flags⟩ := (Option.any_eq_true _ _).mp evaluated
  exact ⟨tree, read, of_decide_eq_true flags⟩

end DefectGraph.Graph
