import DefectGraph.Proofs.Neighborhood
import DefectGraph.Proofs.References
import DefectGraph.Source.Reader

/-!
# Extraction collects the closure of the seeds

## Main Definitions

* `ExploreInvariant` - what the steps of exploring have to keep for exploring to keep it.
* `Reached` - the least set that holds the seeds and, with every declaration that does not break off,
  what it points at.
* `Exploring` - how the stack, the visited declarations and the neighborhood belong together.

## Main Statements

* `ExploreInvariant.explore` - exploring keeps what its steps keep.
* `Exploring.explore` - exploring keeps the relation and empties the stack.
* `extract_closure` - the neighborhood of seeds in terms of what they reach.

## Design Notes

A visit first marks the declaration and then adds its targets one by one. Facts about nodes and numbers
are kept by both kinds of step, so they need no stack; the closure itself is a fact about whole visits.
-/

namespace DefectGraph.Graph

open DefectGraph.Source

/-! ### Steps of a visit -/

/-- Marks a declaration as visited and notes on its node what its references say of it. -/
def Progress.mark (tree : Tree) (p : Progress) (decl : DeclId) : Progress :=
  { p with
    hood := p.hood.updateNode decl fun n =>
      { n with
        explicitSuper := n.explicitSuper || (scan tree decl).explicitSuper
        valid := n.valid && !(scan tree decl).invalid }
    visited := decl :: p.visited
    events := p.events ++ (scan tree decl).events }

/-- A visit notes what the declaration says of itself, and then adds its targets. -/
theorem visit_eq (template : Template) (tree : Tree) (p : Progress) (decl : DeclId) :
    p.visit template tree decl =
      (scan tree decl).targets.foldl (Progress.addTarget template tree decl) (p.mark tree decl) :=
  rfl

/-- A known target gets an edge only. -/
theorem addTarget_of_mem (template : Template) (tree : Tree) (p : Progress) (source target : DeclId)
    (known : target ∈ p.hood.keys) :
    p.addTarget template tree source target = { p with hood := p.hood.addEdge source target } := by
  simp [Progress.addTarget, (p.hood.hasNode_iff target).mpr known]

/-- A new target gets a node with the next number, and an edge. -/
theorem addTarget_of_notMem (template : Template) (tree : Tree) (p : Progress)
    (source target : DeclId) (fresh : target ∉ p.hood.keys) :
    p.addTarget template tree source target =
      { p with
        hood := (p.hood.putNode (template.node tree target p.ids.nextNode.1)).addEdge source target
        ids := p.ids.nextNode.2 } := by
  have missing : p.hood.hasNode target = false := by
    rw [← Bool.not_eq_true, Neighborhood.hasNode_iff]
    exact fresh
  simp [Progress.addTarget, Template.discover, missing]

@[simp]
theorem keys_mark (tree : Tree) (p : Progress) (decl : DeclId) :
    (p.mark tree decl).hood.keys = p.hood.keys :=
  Neighborhood.keys_updateNode p.hood decl _ fun _ same => same

/-- Adding a target makes a node for it, if there was none. -/
@[simp]
theorem mem_keys_addTarget (template : Template) (tree : Tree) (p : Progress)
    (source target decl : DeclId) :
    decl ∈ (p.addTarget template tree source target).hood.keys ↔
      decl ∈ p.hood.keys ∨ decl = target := by
  by_cases known : target ∈ p.hood.keys
  · rw [addTarget_of_mem template tree p source target known, Neighborhood.keys_addEdge]
    constructor
    · exact Or.inl
    · rintro (old | rfl)
      · exact old
      · exact known
  · rw [addTarget_of_notMem template tree p source target known, Neighborhood.keys_addEdge,
      Neighborhood.keys_putNode_of_notMem _ _ known, List.mem_append, List.mem_singleton]
    rfl

/-- Adding a target makes an edge to it, if there was none. -/
@[simp]
theorem mem_ends_addTarget (template : Template) (tree : Tree) (p : Progress)
    (source target : DeclId) (x : DeclId × DeclId) :
    x ∈ (p.addTarget template tree source target).hood.ends ↔
      x ∈ p.hood.ends ∨ x = (source, target) := by
  by_cases known : target ∈ p.hood.keys
  · rw [addTarget_of_mem template tree p source target known, Neighborhood.mem_ends_addEdge]
  · rw [addTarget_of_notMem template tree p source target known, Neighborhood.mem_ends_addEdge,
      Neighborhood.ends_putNode]

/-- Adding targets makes nodes for all of them, and for nothing else. -/
@[simp]
theorem mem_keys_addTargets (template : Template) (tree : Tree) (source decl : DeclId)
    (targets : List DeclId) (p : Progress) :
    decl ∈ (targets.foldl (Progress.addTarget template tree source) p).hood.keys ↔
      decl ∈ p.hood.keys ∨ decl ∈ targets := by
  induction targets generalizing p with
  | nil => simp
  | cons target rest ih =>
    rw [List.foldl_cons, ih, mem_keys_addTarget, List.mem_cons, or_assoc]

/-- Adding targets makes edges to all of them, and no others. -/
@[simp]
theorem mem_ends_addTargets (template : Template) (tree : Tree) (source : DeclId)
    (x : DeclId × DeclId) (targets : List DeclId) (p : Progress) :
    x ∈ (targets.foldl (Progress.addTarget template tree source) p).hood.ends ↔
      x ∈ p.hood.ends ∨ x.1 = source ∧ x.2 ∈ targets := by
  induction targets generalizing p with
  | nil => simp
  | cons target rest ih =>
    rw [List.foldl_cons, ih, mem_ends_addTarget, List.mem_cons, Prod.ext_iff]
    tauto

/-- A visit adds nodes for what the declaration points at. -/
theorem mem_keys_visit (template : Template) (tree : Tree) (p : Progress) (visited decl : DeclId) :
    decl ∈ (p.visit template tree visited).hood.keys ↔
      decl ∈ p.hood.keys ∨ PointsAt tree visited decl := by
  rw [visit_eq, mem_keys_addTargets, keys_mark, mem_scan_targets_iff]

/-- A visit adds the edges to what the declaration points at. -/
theorem mem_ends_visit (template : Template) (tree : Tree) (p : Progress) (visited : DeclId)
    (x : DeclId × DeclId) :
    x ∈ (p.visit template tree visited).hood.ends ↔
      x ∈ p.hood.ends ∨ x.1 = visited ∧ PointsAt tree visited x.2 := by
  rw [visit_eq, mem_ends_addTargets, mem_scan_targets_iff]
  rfl

/-- The declarations to go on with are those that a declaration points at, unless it breaks off. -/
theorem mem_successors_iff (tree : Tree) (decl target : DeclId) :
    target ∈ successors tree decl ↔ ¬ BreaksOff tree decl ∧ PointsAt tree decl target := by
  rw [← scan_invalid_iff, ← mem_scan_targets_iff]
  unfold successors
  by_cases invalid : (scan tree decl).invalid = true
  · simp [invalid]
  · simp [invalid]

/-- Explores from one declaration after the other. -/
def exploreEach (template : Template) (tree : Tree) (p : Progress) (starts : List DeclId) : Progress :=
  starts.foldl (fun p decl => explore template tree p [decl]) p

/-! ### What every step keeps -/

/-- A property of the progress that every step of exploring keeps. -/
structure ExploreInvariant (template : Template) (tree : Tree) (Holds : Progress → Prop) : Prop where
  mark : ∀ {p : Progress} {decl : DeclId}, Holds p → decl ∈ p.hood.keys → Holds (p.mark tree decl)
  addTarget : ∀ {p : Progress} {source target : DeclId}, Holds p → source ∈ p.hood.keys →
    PointsAt tree source target → Holds (p.addTarget template tree source target)

namespace ExploreInvariant

section

variable {template : Template} {tree : Tree} {Holds : Progress → Prop}

/-- What is kept by adding a target is kept by adding several. -/
theorem addTargets (invariant : ExploreInvariant template tree Holds) {source : DeclId}
    (targets : List DeclId) (points : ∀ target ∈ targets, PointsAt tree source target) {p : Progress}
    (holds : Holds p) (node : source ∈ p.hood.keys) :
    Holds (targets.foldl (Progress.addTarget template tree source) p) := by
  induction targets generalizing p with
  | nil => exact holds
  | cons target rest ih =>
    rw [List.foldl_cons]
    refine ih (fun other later => points other (List.mem_cons_of_mem _ later))
      (invariant.addTarget holds node (points target List.mem_cons_self)) ?_
    exact (mem_keys_addTarget template tree p source target source).mpr (Or.inl node)

/-- A visit keeps what its steps keep. -/
theorem visit (invariant : ExploreInvariant template tree Holds) {p : Progress} (decl : DeclId)
    (holds : Holds p) (node : decl ∈ p.hood.keys) : Holds (p.visit template tree decl) := by
  rw [visit_eq]
  refine invariant.addTargets _ (fun target => (mem_scan_targets_iff tree decl target).mp)
    (invariant.mark holds node) ?_
  rw [keys_mark]
  exact node

/-- Exploring keeps what its steps keep, when what is on the stack has nodes. -/
theorem explore (invariant : ExploreInvariant template tree Holds) (p : Progress)
    (stack : List DeclId) (holds : Holds p) (nodes : ∀ decl ∈ stack, decl ∈ p.hood.keys) :
    Holds (Graph.explore template tree p stack) := by
  fun_induction Graph.explore template tree p stack with
  | case1 p => exact holds
  | case2 p decl rest unseen after _ next ih =>
    have node : decl ∈ p.hood.keys := nodes decl List.mem_cons_self
    refine ih (invariant.visit decl holds node) ?_
    intro other pending
    rw [mem_keys_visit]
    rcases List.mem_append.mp pending with new | old
    · exact Or.inr ((mem_successors_iff tree decl other).mp (List.mem_filter.mp new).1).2
    · exact Or.inl (nodes other (List.mem_cons_of_mem _ old))
  | case3 p decl rest _ ih =>
    exact ih holds fun other pending => nodes other (List.mem_cons_of_mem _ pending)

/-- Two invariants can be kept at once. -/
theorem and {Also : Progress → Prop} (invariant : ExploreInvariant template tree Holds)
    (also : ExploreInvariant template tree Also) :
    ExploreInvariant template tree fun p => Holds p ∧ Also p where
  mark holds node := ⟨invariant.mark holds.1 node, also.mark holds.2 node⟩
  addTarget holds node points :=
    ⟨invariant.addTarget holds.1 node points, also.addTarget holds.2 node points⟩

/-- Nodes stay. -/
theorem keys (template : Template) (tree : Tree) (known : List DeclId) :
    ExploreInvariant template tree fun p => ∀ decl ∈ known, decl ∈ p.hood.keys where
  mark present _ := by
    rw [keys_mark]
    exact present
  addTarget {p source target} present _ _ decl known :=
    (mem_keys_addTarget template tree p source target decl).mpr (Or.inl (present decl known))

/-- Exploring from one declaration after the other keeps what the steps keep. -/
theorem exploreEach (invariant : ExploreInvariant template tree Holds) (p : Progress)
    (starts : List DeclId) (holds : Holds p) (nodes : ∀ decl ∈ starts, decl ∈ p.hood.keys) :
    Holds (Graph.exploreEach template tree p starts) := by
  induction starts generalizing p with
  | nil => exact holds
  | cons start rest ih =>
    have node : ∀ decl ∈ [start], decl ∈ p.hood.keys := fun decl here =>
      nodes decl (List.mem_singleton.mp here ▸ List.mem_cons_self)
    have later : ∀ decl ∈ rest, decl ∈ p.hood.keys := fun decl later =>
      nodes decl (List.mem_cons_of_mem _ later)
    obtain ⟨holds, nodes⟩ :=
      (invariant.and (keys template tree rest)).explore p [start] ⟨holds, later⟩ node
    exact ih _ holds nodes

end

/-- The neighborhood stays well formed. -/
theorem wellFormed (template : Template) (tree : Tree) :
    ExploreInvariant template tree fun p => p.hood.WellFormed where
  mark holds _ := holds.updateNode _ _ fun _ same => same
  addTarget {p source target} holds node _ := by
    by_cases known : target ∈ p.hood.keys
    · rw [addTarget_of_mem template tree p source target known]
      exact holds.addEdge source target node known
    · rw [addTarget_of_notMem template tree p source target known]
      have keys := Neighborhood.keys_putNode_of_notMem p.hood
        (template.node tree target p.ids.nextNode.1) known
      refine (holds.putNode _ known).addEdge source target ?_ ?_
      · rw [keys]
        exact List.mem_append_left _ node
      · rw [keys]
        exact List.mem_append_right _ List.mem_cons_self

/-- A property of single nodes that nodes have when they are discovered where no seed is, and that a visit
keeps, holds of all nodes. -/
theorem nodesApart {template : Template} {tree : Tree} {Good : Node → Prop}
    (seeds : List DeclId)
    (discovered : ∀ decl id, decl ∉ seeds → (∃ source, PointsAt tree source decl) →
      Good (template.node tree decl id))
    (visited : ∀ (n : Node) (explicitSuper : Bool), Good n →
      Good { n with explicitSuper, valid := n.valid && !(scan tree n.decl).invalid }) :
    ExploreInvariant template tree fun p =>
      (∀ decl ∈ seeds, decl ∈ p.hood.keys) ∧ ∀ n ∈ p.hood.nodes, Good n where
  mark {p decl} holds node := by
    refine ⟨(keys template tree seeds).mark holds.1 node, ?_⟩
    intro n present
    obtain ⟨old, before, rfl⟩ := List.mem_map.mp present
    by_cases here : old.decl = decl
    · subst here
      simpa using visited old _ (holds.2 old before)
    · simpa [here] using holds.2 old before
  addTarget {p source target} holds node points := by
    refine ⟨(keys template tree seeds).addTarget holds.1 node points, ?_⟩
    by_cases known : target ∈ p.hood.keys
    · rw [addTarget_of_mem template tree p source target known, Neighborhood.nodes_addEdge]
      exact holds.2
    · rw [addTarget_of_notMem template tree p source target known, Neighborhood.nodes_addEdge,
        Neighborhood.putNode_of_notMem _ _ known]
      intro n present
      rcases List.mem_append.mp present with old | new
      · exact holds.2 n old
      · cases List.mem_singleton.mp new
        exact discovered target _ (fun seed => known (holds.1 target seed)) ⟨source, points⟩

/-- A property of single nodes that discovered nodes have, and that the flags do not matter for, is
kept. -/
theorem nodes {template : Template} {tree : Tree} {Good : Node → Prop}
    (discovered : ∀ decl id, Good (template.node tree decl id))
    (flags : ∀ (n : Node) (explicitSuper valid : Bool), Good n → Good { n with explicitSuper, valid }) :
    ExploreInvariant template tree fun p => ∀ n ∈ p.hood.nodes, Good n := by
  have apart : ExploreInvariant template tree fun p =>
      (∀ decl ∈ [], decl ∈ p.hood.keys) ∧ ∀ n ∈ p.hood.nodes, Good n :=
    nodesApart [] (fun decl id _ _ => discovered decl id) fun n explicitSuper => flags n explicitSuper _
  exact ⟨fun holds node => (apart.mark ⟨by simp, holds⟩ node).2,
    fun holds node points => (apart.addTarget ⟨by simp, holds⟩ node points).2⟩

/-- A node that is not among the seeds counts as discovered. -/
theorem unseeded (template : Template) (tree : Tree) (seeds : List DeclId) :
    ExploreInvariant template tree fun p =>
      ∀ n ∈ p.hood.nodes, n.decl ∉ seeds → n.bugs = -1 ∧ n.seed = false :=
  nodes (fun _ _ _ => ⟨rfl, rfl⟩) fun _ _ _ discovered => discovered

end ExploreInvariant

/-! ### Seeds -/

/-- The node with its count of bugs left out. -/
def Node.withoutBugs (n : Node) : Node := { n with bugs := 0 }

/-- Merging two seeds changes nothing but the count of bugs. -/
theorem Node.withoutBugs_of_absorb? {n other joined : Node} (absorbed : n.absorb? other = some joined) :
    joined.withoutBugs = n.withoutBugs := by
  unfold Node.absorb? at absorbed
  split at absorbed
  · obtain ⟨bugs, _, rfl⟩ := Option.map_eq_some_iff.mp absorbed
    rfl
  · cases absorbed
    rfl

theorem Node.eq_of_withoutBugs {a b : Node} (same : a.withoutBugs = b.withoutBugs) :
    b = { a with bugs := b.bugs } := by
  cases a
  cases b
  simp only [Node.withoutBugs, Node.mk.injEq] at same ⊢
  simp [same]

/-- The neighborhood of seeds before any of them is explored: it has no edges, and its nodes are first
seeds of their declarations, but for the counts of bugs. -/
structure Seeded (seeds : List Node) (h : Neighborhood) : Prop where
  wellFormed : h.WellFormed
  edges : h.edges = []
  keys : ∀ decl, decl ∈ h.keys ↔ decl ∈ seeds.map Node.decl
  nodes : (h.nodes.map Node.withoutBugs).Sublist (seeds.map Node.withoutBugs)

namespace Seeded

theorem empty : Seeded [] .empty :=
  ⟨Neighborhood.empty_wellFormed, rfl, fun _ => Iff.rfl, List.Sublist.refl _⟩

/-- A seed for a new declaration goes behind the others. -/
theorem putNode {seeds : List Node} {h : Neighborhood} (seeded : Seeded seeds h) (seed : Node)
    (fresh : seed.decl ∉ h.keys) : Seeded (seeds ++ [seed]) (h.putNode seed) where
  wellFormed := seeded.wellFormed.putNode seed fresh
  edges := by
    rw [Neighborhood.putNode_of_notMem h seed fresh]
    exact seeded.edges
  keys := by
    intro decl
    rw [Neighborhood.keys_putNode_of_notMem h seed fresh, List.mem_append, seeded.keys]
    simp
  nodes := by
    rw [Neighborhood.putNode_of_notMem h seed fresh, List.map_append, List.map_append]
    exact seeded.nodes.append (List.Sublist.refl _)

/-- A seed for a declaration that has one changes nothing but a count. -/
theorem absorb {seeds : List Node} {h joined : Neighborhood} (seeded : Seeded seeds h) (seed : Node)
    (known : seed.decl ∈ h.keys) (absorbed : h.absorb? seed = some joined) :
    Seeded (seeds ++ [seed]) joined := by
  obtain ⟨first, found, rest⟩ := Option.bind_eq_some_iff.mp absorbed
  obtain ⟨node, nodeAbsorbed, updated⟩ := Option.bind_eq_some_iff.mp rest
  cases updated
  have present : first ∈ h.nodes := List.mem_of_find?_eq_some found
  have here : first.decl = seed.decl := by simpa using List.find?_some found
  have unchanged : node.withoutBugs = first.withoutBugs := Node.withoutBugs_of_absorb? nodeAbsorbed
  have decl : node.decl = seed.decl := (congrArg Node.decl unchanged).trans here
  refine ⟨seeded.wellFormed.updateNode _ _ fun _ _ => decl, seeded.edges, ?_, ?_⟩
  · intro other
    rw [Neighborhood.keys_updateNode h seed.decl _ fun _ _ => decl, seeded.keys]
    rw [List.map_append, List.mem_append, List.map_singleton, List.mem_singleton]
    constructor
    · exact Or.inl
    · rintro (old | rfl)
      · exact old
      · exact (seeded.keys _).mp known
  · have same : (h.updateNode seed.decl fun _ => node).nodes.map Node.withoutBugs
        = h.nodes.map Node.withoutBugs := by
      rw [Neighborhood.updateNode, List.map_map]
      apply List.map_congr_left
      intro n old
      by_cases other : n.decl = seed.decl
      · have only : n = first :=
          List.inj_on_of_nodup_map seeded.wellFormed.keysNodup old present (other.trans here.symm)
        simp [only, here, unchanged]
      · simp [other]
    rw [same, List.map_append]
    exact seeded.nodes.trans (List.sublist_append_left _ _)

/-- A further seed is merged into its node or makes a new one. -/
theorem addSeed {seeds : List Node} {state after : Neighborhood × List Event} {seed : Node}
    (seeded : Seeded seeds state.1) (added : addSeed? state seed = some after) :
    Seeded (seeds ++ [seed]) after.1 := by
  unfold addSeed? at added
  split at added
  · rename_i known
    obtain ⟨hood, absorbed, rfl⟩ := Option.map_eq_some_iff.mp added
    exact seeded.absorb seed ((state.1.hasNode_iff seed.decl).mp known) absorbed
  · rename_i missing
    cases added
    rw [Neighborhood.hasNode_iff] at missing
    exact seeded.putNode seed missing

/-- So are several, one after the other. -/
theorem addAll {done : List Node} {state after : Neighborhood × List Event} (seeds : List Node)
    (seeded : Seeded done state.1) (added : seeds.foldlM addSeed? state = some after) :
    Seeded (done ++ seeds) after.1 := by
  induction seeds generalizing done state with
  | nil =>
    cases added
    simpa using seeded
  | cons seed rest ih =>
    rw [List.foldlM_cons] at added
    obtain ⟨next, first, others⟩ := Option.bind_eq_some_iff.mp added
    simpa using ih (seeded.addSeed first) others

/-- The neighborhood that exploring starts from holds the merged seeds. -/
theorem ofSeeds {seeds : List Node} {hood : Neighborhood} {events : List Event}
    (merged : addSeeds? seeds = some (hood, events)) : Seeded seeds hood := by
  have start : Seeded [] ((Neighborhood.empty, []) : Neighborhood × List Event).1 := empty
  simpa using start.addAll seeds merged

/-- No node is without a seed. -/
theorem mem_of_mem_nodes {seeds : List Node} {hood : Neighborhood} (seeded : Seeded seeds hood)
    {n : Node} (present : n ∈ hood.nodes) : n.decl ∈ seeds.map Node.decl :=
  (seeded.keys n.decl).mp (List.mem_map_of_mem present)

/-- Merging leaves each seed as it is, but for its count of bugs. -/
theorem exists_seed {seeds : List Node} {hood : Neighborhood} (seeded : Seeded seeds hood) {n : Node}
    (present : n ∈ hood.nodes) : ∃ seed ∈ seeds, n = { seed with bugs := n.bugs } := by
  obtain ⟨seed, among, same⟩ :=
    List.mem_map.mp (seeded.nodes.subset (List.mem_map_of_mem present))
  exact ⟨seed, among, Node.eq_of_withoutBugs same⟩

end Seeded

/-! ### The closure of the seeds -/

/-- The least set that holds the seeds and, with every declaration that does not break off, what it
points at. -/
inductive Reached (tree : Tree) (seeds : List DeclId) : DeclId → Prop
  | seed {decl : DeclId} : decl ∈ seeds → Reached tree seeds decl
  | step {decl target : DeclId} : Reached tree seeds decl → ¬ BreaksOff tree decl →
      PointsAt tree decl target → Reached tree seeds target

/-- What is reached from declarations is declared. -/
theorem Reached.declared {tree : Tree} {seeds : List DeclId}
    (declared : ∀ seed ∈ seeds, seed < tree.decls.length) {decl : DeclId}
    (reached : Reached tree seeds decl) : decl < tree.decls.length := by
  cases reached with
  | seed seed => exact declared decl seed
  | step _ _ points =>
    obtain ⟨_, found, _⟩ := points.callable
    exact tree.lt_of_decl? found

/-- How the stack, the visited declarations and the neighborhood belong together while exploring. -/
structure Exploring (tree : Tree) (seeds : List DeclId) (p : Progress) (stack : List DeclId) :
    Prop where
  visited : ∀ decl ∈ p.visited, Reached tree seeds decl
  pending : ∀ decl ∈ stack, Reached tree seeds decl
  /-- What a visited declaration leads on to is visited or waits on the stack. -/
  frontier : ∀ decl ∈ p.visited, ¬ BreaksOff tree decl → ∀ target, PointsAt tree decl target →
    target ∈ p.visited ∨ target ∈ stack
  ends : ∀ decl target, (decl, target) ∈ p.hood.ends ↔ decl ∈ p.visited ∧ PointsAt tree decl target
  keys : ∀ decl, decl ∈ p.hood.keys ↔ decl ∈ seeds ∨ ∃ other ∈ p.visited, PointsAt tree other decl

namespace Exploring

variable {tree : Tree} {seeds : List DeclId} {p : Progress}

/-- A visited declaration leaves the stack. -/
theorem skip {decl : DeclId} {rest : List DeclId} (exploring : Exploring tree seeds p (decl :: rest))
    (seen : decl ∈ p.visited) : Exploring tree seeds p rest where
  visited := exploring.visited
  pending := fun other waits => exploring.pending other (List.mem_cons_of_mem _ waits)
  frontier := by
    intro other done goesOn target points
    rcases exploring.frontier other done goesOn target points with done | waits
    · exact Or.inl done
    · rcases List.mem_cons.mp waits with rfl | waits
      · exact Or.inl seen
      · exact Or.inr waits
  ends := exploring.ends
  keys := exploring.keys

/-- A visit replaces the declaration on the stack by what it leads on to. -/
theorem visit (template : Template) {decl : DeclId} {rest : List DeclId}
    (exploring : Exploring tree seeds p (decl :: rest)) :
    Exploring tree seeds (p.visit template tree decl)
      ((successors tree decl).filter
        (fun d => !(p.visit template tree decl).visited.contains d) ++ rest) where
  visited := by
    rw [visit_visited]
    intro other done
    rcases List.mem_cons.mp done with rfl | done
    · exact exploring.pending other List.mem_cons_self
    · exact exploring.visited other done
  pending := by
    intro other waits
    rcases List.mem_append.mp waits with new | waits
    · obtain ⟨goesOn, points⟩ := (mem_successors_iff tree decl other).mp (List.mem_filter.mp new).1
      exact .step (exploring.pending decl List.mem_cons_self) goesOn points
    · exact exploring.pending other (List.mem_cons_of_mem _ waits)
  frontier := by
    intro other done goesOn target points
    by_cases old : target ∈ (p.visit template tree decl).visited
    · exact Or.inl old
    · refine Or.inr (List.mem_append.mpr ?_)
      rw [visit_visited] at done old
      -- The new declaration's targets were pushed; those of the others were there before.
      rcases List.mem_cons.mp done with rfl | done
      · have successor := (mem_successors_iff tree other target).mpr ⟨goesOn, points⟩
        refine Or.inl (List.mem_filter.mpr ⟨successor, ?_⟩)
        simpa [visit_visited] using old
      · rcases exploring.frontier other done goesOn target points with seen | waits
        · exact absurd (List.mem_cons_of_mem _ seen) old
        · rcases List.mem_cons.mp waits with rfl | waits
          · exact absurd List.mem_cons_self old
          · exact Or.inr waits
  ends := by
    intro other target
    rw [mem_ends_visit, visit_visited, List.mem_cons, exploring.ends]
    constructor
    · rintro (⟨done, points⟩ | ⟨rfl, points⟩)
      · exact ⟨Or.inr done, points⟩
      · exact ⟨Or.inl rfl, points⟩
    · rintro ⟨rfl | done, points⟩
      · exact Or.inr ⟨rfl, points⟩
      · exact Or.inl ⟨done, points⟩
  keys := by
    intro other
    rw [mem_keys_visit, visit_visited, exploring.keys]
    constructor
    · rintro ((seed | ⟨source, done, points⟩) | points)
      · exact Or.inl seed
      · exact Or.inr ⟨source, List.mem_cons_of_mem _ done, points⟩
      · exact Or.inr ⟨decl, List.mem_cons_self, points⟩
    · rintro (seed | ⟨source, done, points⟩)
      · exact Or.inl (Or.inl seed)
      · rcases List.mem_cons.mp done with rfl | done
        · exact Or.inr points
        · exact Or.inl (Or.inr ⟨source, done, points⟩)

/-- Exploring empties the stack, and what was on it has been visited. -/
theorem explore (template : Template) (declared : ∀ seed ∈ seeds, seed < tree.decls.length)
    (stack : List DeclId) (exploring : Exploring tree seeds p stack) :
    Exploring tree seeds (Graph.explore template tree p stack) [] ∧
      ∀ decl, decl ∈ p.visited ∨ decl ∈ stack →
        decl ∈ (Graph.explore template tree p stack).visited := by
  fun_induction Graph.explore template tree p stack with
  | case1 p => exact ⟨exploring, fun decl known => known.resolve_right List.not_mem_nil⟩
  | case2 p decl rest unseen after _ next ih =>
    obtain ⟨finished, kept⟩ := ih (exploring.visit template)
    refine ⟨finished, fun other known => ?_⟩
    have visited : other ∈ decl :: p.visited ∨ other ∈ rest := by
      rcases known with done | waits
      · exact Or.inl (List.mem_cons_of_mem _ done)
      · rcases List.mem_cons.mp waits with rfl | waits
        · exact Or.inl List.mem_cons_self
        · exact Or.inr waits
    rcases visited with done | waits
    · refine kept other (Or.inl ?_)
      rw [visit_visited]
      exact done
    · exact kept other (Or.inr (List.mem_append_right _ waits))
  | case3 p decl rest seen ih =>
    -- A declaration is skipped when it is visited or when there is none of its number.
    have known : decl ∈ p.visited := by
      have inside := (exploring.pending decl List.mem_cons_self).declared declared
      simpa [inside] using seen
    obtain ⟨finished, kept⟩ := ih (exploring.skip known)
    refine ⟨finished, fun other before => kept other ?_⟩
    rcases before with done | waits
    · exact Or.inl done
    · rcases List.mem_cons.mp waits with rfl | waits
      · exact Or.inl known
      · exact Or.inr waits

/-- A declaration can be pushed when nothing waits. -/
theorem push (exploring : Exploring tree seeds p []) {decl : DeclId} (seed : decl ∈ seeds) :
    Exploring tree seeds p [decl] where
  visited := exploring.visited
  pending := by
    intro other waits
    cases List.mem_singleton.mp waits
    exact .seed seed
  frontier := fun other done goesOn target points =>
    Or.inl ((exploring.frontier other done goesOn target points).resolve_right List.not_mem_nil)
  ends := exploring.ends
  keys := exploring.keys

/-- When nothing waits and the seeds have been visited, all that they reach has been visited. -/
theorem visited_of_reached (exploring : Exploring tree seeds p [])
    (started : ∀ seed ∈ seeds, seed ∈ p.visited) {decl : DeclId} (reached : Reached tree seeds decl) :
    decl ∈ p.visited := by
  induction reached with
  | seed seed => exact started _ seed
  | step _ goesOn points ih =>
    exact (exploring.frontier _ ih goesOn _ points).resolve_right List.not_mem_nil

/-- Exploring from some of the seeds visits them. -/
theorem exploreEach (template : Template) (declared : ∀ seed ∈ seeds, seed < tree.decls.length)
    (starts : List DeclId) (known : ∀ start ∈ starts, start ∈ seeds)
    (exploring : Exploring tree seeds p []) :
    Exploring tree seeds (Graph.exploreEach template tree p starts) [] ∧
      ∀ decl, decl ∈ p.visited ∨ decl ∈ starts →
        decl ∈ (Graph.exploreEach template tree p starts).visited := by
  induction starts generalizing p with
  | nil => exact ⟨exploring, fun decl seen => seen.resolve_right List.not_mem_nil⟩
  | cons start rest ih =>
    obtain ⟨first, kept⟩ :=
      (exploring.push (known start List.mem_cons_self)).explore template declared
    obtain ⟨finished, others⟩ :=
      ih (fun other later => known other (List.mem_cons_of_mem _ later)) first
    refine ⟨finished, fun decl seen => others decl ?_⟩
    rcases seen with done | starts
    · exact Or.inl (kept decl (Or.inl done))
    · rcases List.mem_cons.mp starts with rfl | later
      · exact Or.inl (kept decl (Or.inr List.mem_cons_self))
      · exact Or.inr later

end Exploring

/-- The progress before anything is explored. -/
def Progress.start (hood : Neighborhood) (ids : Ids) (events : List Event) : Progress :=
  ⟨hood, [], ids, events⟩

/-- Before the first visit, the seeds are all that is known. -/
theorem Seeded.exploring {seeds : List Node} {hood : Neighborhood} (seeded : Seeded seeds hood)
    (tree : Tree) (ids : Ids) (events : List Event) :
    Exploring tree (seeds.map Node.decl) (.start hood ids events) [] where
  visited := fun _ done => absurd done List.not_mem_nil
  pending := fun _ waits => absurd waits List.not_mem_nil
  frontier := fun _ done => absurd done List.not_mem_nil
  ends := by simp [Progress.start, Neighborhood.ends, seeded.edges]
  keys := by
    intro decl
    simp [Progress.start, seeded.keys]

/-- Without an overflow, extraction explores from each of the seeds after merging them. -/
theorem extract?_eq_some (template : Template) (tree : Tree) {seeds : List Node} (ids : Ids)
    {hood : Neighborhood} {events : List Event} (merged : addSeeds? seeds = some (hood, events)) :
    extract? template tree seeds ids =
      let p := exploreEach template tree (.start hood ids events) (seeds.map Node.decl)
      some (p.hood, p.events, p.ids) := by
  simp [extract?, merged, Progress.start, exploreEach]

/-- The neighborhood is the closure of the seeds. -/
structure IsClosure (tree : Tree) (seeds : List Node) (hood : Neighborhood) : Prop where
  /-- Edges lead from what is reached to what it points at. -/
  edges : ∀ source target, (source, target) ∈ hood.ends ↔
    Reached tree (seeds.map Node.decl) source ∧ PointsAt tree source target
  edgesOnce : hood.ends.Nodup
  /-- Nodes stand for what is reached and for where edges lead. -/
  nodes : ∀ decl, decl ∈ hood.keys ↔
    Reached tree (seeds.map Node.decl) decl ∨ ∃ source, (source, decl) ∈ hood.ends
  nodesOnce : hood.keys.Nodup
  /-- Edges lead to methods and constructors. -/
  callable : ∀ source target, (source, target) ∈ hood.ends →
    ∃ d, tree.decl? target = some d ∧ d.kind ≠ .enumConstant
  /-- A node without a seed counts as discovered. -/
  discovered : ∀ n ∈ hood.nodes, n.decl ∉ seeds.map Node.decl → n.bugs = -1 ∧ n.seed = false

/-- Unless merging the seeds overflows, extraction ends with exactly the closure of the seeds. -/
theorem extract_closure (template : Template) (tree : Tree) (seeds : List Node) (ids : Ids)
    (declared : ∀ seed ∈ seeds, seed.decl < tree.decls.length)
    (merges : (addSeeds? seeds).isSome = true) :
    ∃ hood events after, extract? template tree seeds ids = some (hood, events, after) ∧
      IsClosure tree seeds hood := by
  obtain ⟨⟨hood, events⟩, merged⟩ := Option.isSome_iff_exists.mp merges
  have seeded := Seeded.ofSeeds merged
  have inside : ∀ decl ∈ seeds.map Node.decl, decl < tree.decls.length := by
    intro decl seed
    obtain ⟨n, present, rfl⟩ := List.mem_map.mp seed
    exact declared n present
  have nodes : ∀ decl ∈ seeds.map Node.decl, decl ∈ hood.keys := fun decl =>
    (seeded.keys decl).mpr
  obtain ⟨explored, started⟩ := (seeded.exploring tree ids events).exploreEach template inside
    (seeds.map Node.decl) fun _ seed => seed
  have reachedIff : ∀ decl, Reached tree (seeds.map Node.decl) decl ↔ decl ∈ _ := fun decl =>
    ⟨explored.visited_of_reached fun seed present => started seed (Or.inr present),
      explored.visited decl⟩
  have wellFormed := (ExploreInvariant.wellFormed template tree).exploreEach
    (.start hood ids events) (seeds.map Node.decl) seeded.wellFormed nodes
  have unseeded := (ExploreInvariant.unseeded template tree (seeds.map Node.decl)).exploreEach
    (.start hood ids events) (seeds.map Node.decl)
    (fun _ present other => absurd (seeded.mem_of_mem_nodes present) other) nodes
  refine ⟨_, _, _, extract?_eq_some template tree ids merged, ?_, wellFormed.endsNodup, ?_,
    wellFormed.keysNodup, ?_, unseeded⟩
  · intro source target
    rw [explored.ends, reachedIff]
  · intro decl
    rw [explored.keys]
    constructor
    · rintro (seed | ⟨source, done, points⟩)
      · exact Or.inl (.seed seed)
      · exact Or.inr ⟨source, (explored.ends source decl).mpr ⟨done, points⟩⟩
    · rintro (reached | ⟨source, edge⟩)
      · cases reached with
        | seed seed => exact Or.inl seed
        | step reached _ points => exact Or.inr ⟨_, (reachedIff _).mp reached, points⟩
      · obtain ⟨done, points⟩ := (explored.ends source decl).mp edge
        exact Or.inr ⟨source, done, points⟩
  · intro source target edge
    exact ((explored.ends source target).mp edge).2.callable

/-- Two seeds for one declaration of a cycle, with a self-edge and a constructor that breaks off. -/
theorem extract_closure_of_cycle :
    ∃ tree, Tree.ofSource?
        "class A { A() { super(); f(); } void f() { g(); new A(); } void g() { f(); g(); } }" =
          some tree ∧
      let template : Template := ⟨"p", "h", "p/classes/k.java", true⟩
      let seed : Node := { template.node tree 1 0 with bugs := 2, seed := true }
      (∀ n ∈ [seed, seed], n.decl < tree.decls.length) ∧ (addSeeds? [seed, seed]).isSome = true ∧
      ∃ hood events after, extract? template tree [seed, seed] ⟨2, 0⟩ = some (hood, events, after) ∧
        IsClosure tree [seed, seed] hood := by
  refine ⟨_, (Option.some_get (by decide +kernel)).symm, by decide +kernel, by decide +kernel, ?_⟩
  exact extract_closure _ _ _ _ (by decide +kernel) (by decide +kernel)

end DefectGraph.Graph
