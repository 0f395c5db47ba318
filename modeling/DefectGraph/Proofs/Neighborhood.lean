import DefectGraph.Graph.Neighborhood
import Mathlib.Data.List.Nodup

/-!
# Keys and ends of neighborhoods

A neighborhood is read through two lists: the declarations that have nodes, and the ends of its edges.
What the operations do to these two lists is all that later arguments need.

## Main Definitions

* `Neighborhood.keys`, `Neighborhood.ends` - the two lists.
* `Neighborhood.WellFormed` - no declaration has two nodes, no two edges have the same ends, and the
  ends of edges have nodes.

## Main Statements

* `Neighborhood.keys_updateNode`, `Neighborhood.ends_putNode`, `Neighborhood.mem_ends_addEdge` and others -
  what an operation does to one of the two lists.
* `Neighborhood.WellFormed.putNode`, `Neighborhood.WellFormed.addEdge`, `Neighborhood.WellFormed.filter` -
  operations keep a neighborhood well formed.
-/

namespace DefectGraph.Graph

open DefectGraph.Source (DeclId)

/-- The ends of an edge. -/
def Edge.ends (e : Edge) : DeclId × DeclId := (e.source, e.destination)

namespace Neighborhood

/-- The declarations that have nodes, in the order of the nodes. -/
def keys (h : Neighborhood) : List DeclId := h.nodes.map Node.decl

/-- The ends of the edges, in the order of the edges. -/
def ends (h : Neighborhood) : List (DeclId × DeclId) := h.edges.map Edge.ends

/-- No declaration has two nodes, no two edges have the same ends, and the ends of edges have nodes. -/
structure WellFormed (h : Neighborhood) : Prop where
  keysNodup : h.keys.Nodup
  endsNodup : h.ends.Nodup
  sourceKeys : ∀ x ∈ h.ends, x.1 ∈ h.keys
  destinationKeys : ∀ x ∈ h.ends, x.2 ∈ h.keys

theorem empty_wellFormed : empty.WellFormed :=
  ⟨List.nodup_nil, List.nodup_nil, by simp [empty, ends], by simp [empty, ends]⟩

@[simp]
theorem hasNode_iff (h : Neighborhood) (decl : DeclId) : h.hasNode decl = true ↔ decl ∈ h.keys := by
  simp [hasNode, keys]

/-- An edge is there when its two ends are. -/
@[simp]
theorem hasEdge_iff (h : Neighborhood) (source destination : DeclId) :
    h.hasEdge source destination = true ↔ (source, destination) ∈ h.ends := by
  simp only [hasEdge, ends, Edge.sameEnds, Edge.ends, List.any_eq_true, List.mem_map,
    Bool.and_eq_true, beq_iff_eq, Prod.mk.injEq]
  constructor
  · rintro ⟨e, present, sameSource, sameDestination⟩
    exact ⟨e, present, sameSource.symm, sameDestination.symm⟩
  · rintro ⟨e, present, sameSource, sameDestination⟩
    exact ⟨e, present, sameSource.symm, sameDestination.symm⟩

/-! ### Nodes -/

/-- Changing a node in place keeps the declarations that have nodes. -/
theorem keys_updateNode (h : Neighborhood) (decl : DeclId) (change : Node → Node)
    (same : ∀ n : Node, n.decl = decl → (change n).decl = decl) :
    (h.updateNode decl change).keys = h.keys := by
  unfold keys updateNode
  rw [List.map_map]
  apply List.map_congr_left
  intro n _
  by_cases here : n.decl = decl
  · simp [here, same n here]
  · simp [here]

/-- Changing a node in place keeps a neighborhood well formed. -/
theorem WellFormed.updateNode {h : Neighborhood} (wellFormed : h.WellFormed) (decl : DeclId)
    (change : Node → Node) (same : ∀ n : Node, n.decl = decl → (change n).decl = decl) :
    (h.updateNode decl change).WellFormed where
  keysNodup := by
    rw [keys_updateNode h decl change same]
    exact wellFormed.keysNodup
  endsNodup := wellFormed.endsNodup
  sourceKeys := by
    rw [keys_updateNode h decl change same]
    exact wellFormed.sourceKeys
  destinationKeys := by
    rw [keys_updateNode h decl change same]
    exact wellFormed.destinationKeys

/-- A node for a declaration that has none goes behind all others. -/
theorem putNode_of_notMem (h : Neighborhood) (n : Node) (fresh : n.decl ∉ h.keys) :
    h.putNode n = { h with nodes := h.nodes ++ [n] } := by
  have missing : h.hasNode n.decl = false := by
    rw [← Bool.not_eq_true, hasNode_iff]
    exact fresh
  simp [putNode, missing]

/-- A new node comes last. -/
theorem keys_putNode_of_notMem (h : Neighborhood) (n : Node) (fresh : n.decl ∉ h.keys) :
    (h.putNode n).keys = h.keys ++ [n.decl] := by
  rw [putNode_of_notMem h n fresh]
  simp [keys]

@[simp]
theorem ends_putNode (h : Neighborhood) (n : Node) : (h.putNode n).ends = h.ends := by
  unfold putNode
  split <;> rfl

/-- So does adding a new node. -/
theorem WellFormed.putNode {h : Neighborhood} (wellFormed : h.WellFormed) (n : Node)
    (fresh : n.decl ∉ h.keys) : (h.putNode n).WellFormed where
  keysNodup := by
    rw [keys_putNode_of_notMem h n fresh, ← List.concat_eq_append]
    exact wellFormed.keysNodup.concat fresh
  endsNodup := by
    rw [ends_putNode]
    exact wellFormed.endsNodup
  sourceKeys := by
    rw [ends_putNode, keys_putNode_of_notMem h n fresh]
    exact fun x present => List.mem_append_left _ (wellFormed.sourceKeys x present)
  destinationKeys := by
    rw [ends_putNode, keys_putNode_of_notMem h n fresh]
    exact fun x present => List.mem_append_left _ (wellFormed.destinationKeys x present)

/-! ### Looking nodes up -/

/-- Every key has a node. -/
theorem node?_of_mem_keys {h : Neighborhood} {decl : DeclId} (present : decl ∈ h.keys) :
    ∃ n ∈ h.nodes, n.decl = decl ∧ h.node? decl = some n := by
  cases found : h.node? decl with
  | none =>
    obtain ⟨n, among, here⟩ := List.mem_map.mp present
    have missing := List.find?_eq_none.mp found n among
    simp [here] at missing
  | some n => exact ⟨n, List.mem_of_find?_eq_some found, by simpa using List.find?_some found, rfl⟩

@[simp]
theorem node?_eq_none_iff (h : Neighborhood) (decl : DeclId) :
    h.node? decl = none ↔ decl ∉ h.keys := by
  simp [node?, keys]

/-- What is found after a node has been changed in place. -/
theorem node?_updateNode (h : Neighborhood) (decl other : DeclId) (change : Node → Node)
    (same : ∀ n : Node, n.decl = decl → (change n).decl = decl) :
    (h.updateNode decl change).node? other =
      if other = decl then (h.node? decl).map change else h.node? other := by
  have unchanged : (fun n : Node => n.decl == other) ∘
      (fun n => if n.decl == decl then change n else n) = fun n => n.decl == other := by
    funext n
    by_cases here : n.decl = decl
    · simp [here, same n here]
    · simp [here]
  unfold node? updateNode
  rw [List.find?_map, unchanged]
  by_cases here : other = decl
  · rw [if_pos here, here]
    apply Option.map_congr
    intro n found
    exact if_pos (List.find?_some found)
  · rw [if_neg here]
    cases found : h.nodes.find? fun n => n.decl == other with
    | none => rfl
    | some n =>
      have found : n.decl = other := by simpa using List.find?_some found
      simp [found, here]

/-- What is found after a node has been put behind all others. -/
theorem node?_putNode_of_notMem (h : Neighborhood) (n : Node) (fresh : n.decl ∉ h.keys)
    (other : DeclId) :
    (h.putNode n).node? other = if other = n.decl then some n else h.node? other := by
  rw [putNode_of_notMem h n fresh, node?, List.find?_append]
  by_cases here : other = n.decl
  · have missing := (node?_eq_none_iff h n.decl).mpr fresh
    rw [if_pos here, here]
    unfold node? at missing
    simp [missing]
  · rw [if_neg here]
    simp [node?, Ne.symm here]

/-! ### Edges -/

@[simp]
theorem nodes_addEdge (h : Neighborhood) (source destination : DeclId) :
    (h.addEdge source destination).nodes = h.nodes := by
  unfold addEdge
  split <;> rfl

@[simp]
theorem keys_addEdge (h : Neighborhood) (source destination : DeclId) :
    (h.addEdge source destination).keys = h.keys := by
  rw [keys, nodes_addEdge, keys]

/-- A new edge comes last, without a number. -/
theorem addEdge_of_notMem (h : Neighborhood) (source destination : DeclId)
    (fresh : (source, destination) ∉ h.ends) :
    h.addEdge source destination = { h with edges := h.edges ++ [⟨source, destination, none⟩] } := by
  have missing : h.hasEdge source destination = false := by
    rw [← Bool.not_eq_true, hasEdge_iff]
    exact fresh
  simp [addEdge, missing]

/-- An edge that is there is not added again. -/
theorem addEdge_of_mem (h : Neighborhood) (source destination : DeclId)
    (present : (source, destination) ∈ h.ends) : h.addEdge source destination = h := by
  simp [addEdge, (hasEdge_iff h source destination).mpr present]

/-- Adding an edge adds its two ends, if they are new. -/
@[simp]
theorem mem_ends_addEdge (h : Neighborhood) (source destination : DeclId) (x : DeclId × DeclId) :
    x ∈ (h.addEdge source destination).ends ↔ x ∈ h.ends ∨ x = (source, destination) := by
  by_cases present : (source, destination) ∈ h.ends
  · rw [addEdge_of_mem h source destination present]
    constructor
    · exact Or.inl
    · rintro (old | rfl)
      · exact old
      · exact present
  · rw [addEdge_of_notMem h source destination present]
    simp [ends, Edge.ends]

/-- An edge between nodes keeps a neighborhood well formed. -/
theorem WellFormed.addEdge {h : Neighborhood} (wellFormed : h.WellFormed)
    (source destination : DeclId) (sourceKey : source ∈ h.keys)
    (destinationKey : destination ∈ h.keys) : (h.addEdge source destination).WellFormed where
  keysNodup := by
    rw [keys_addEdge]
    exact wellFormed.keysNodup
  endsNodup := by
    by_cases present : (source, destination) ∈ h.ends
    · rw [addEdge_of_mem h source destination present]
      exact wellFormed.endsNodup
    · rw [addEdge_of_notMem h source destination present, ends, List.map_append,
        List.map_singleton, ← List.concat_eq_append]
      exact wellFormed.endsNodup.concat present
  sourceKeys := by
    intro x present
    rw [keys_addEdge]
    rcases (mem_ends_addEdge h source destination x).mp present with old | rfl
    · exact wellFormed.sourceKeys x old
    · exact sourceKey
  destinationKeys := by
    intro x present
    rw [keys_addEdge]
    rcases (mem_ends_addEdge h source destination x).mp present with old | rfl
    · exact wellFormed.destinationKeys x old
    · exact destinationKey

/-! ### Filtering -/

/-- Filtering leaves nodes out and keeps the order of the others. -/
theorem nodes_filter_sublist (h : Neighborhood) (marker : String) :
    (h.filter marker).nodes.Sublist h.nodes :=
  List.filter_sublist

/-- A declaration keeps its node unless the node is not shown. -/
theorem mem_keys_filter (h : Neighborhood) (marker : String) (decl : DeclId) :
    decl ∈ (h.filter marker).keys ↔ decl ∈ h.keys ∧ decl ∉ h.hidden marker := by
  simp only [keys, filter, List.mem_map, List.mem_filter, Bool.not_eq_true', List.contains_eq_mem,
    decide_eq_false_iff_not]
  constructor
  · rintro ⟨n, ⟨present, shown⟩, rfl⟩
    exact ⟨⟨n, present, rfl⟩, shown⟩
  · rintro ⟨⟨n, present, rfl⟩, shown⟩
    exact ⟨n, ⟨present, shown⟩, rfl⟩

/-- The ends of an edge that is kept have nodes before, and neither of the two is hidden. -/
theorem WellFormed.mem_ends_filter {h : Neighborhood} (wellFormed : h.WellFormed) (marker : String)
    {x : DeclId × DeclId} (kept : x ∈ (h.filter marker).ends) :
    x.1 ∈ (h.filter marker).keys ∧ x.2 ∈ (h.filter marker).keys := by
  obtain ⟨e, among, rfl⟩ := List.mem_map.mp kept
  obtain ⟨present, shown⟩ := List.mem_filter.mp among
  have before : e.ends ∈ h.ends := List.mem_map_of_mem present
  simp only [Bool.and_eq_true, Bool.not_eq_true', List.contains_eq_mem, decide_eq_false_iff_not]
    at shown
  rw [mem_keys_filter, mem_keys_filter]
  exact ⟨⟨wellFormed.sourceKeys _ before, shown.1⟩, ⟨wellFormed.destinationKeys _ before, shown.2⟩⟩

/-- Filtering leaves out the edges of the nodes that it leaves out. -/
theorem WellFormed.filter {h : Neighborhood} (wellFormed : h.WellFormed) (marker : String) :
    (h.filter marker).WellFormed where
  keysNodup := wellFormed.keysNodup.sublist (List.filter_sublist.map _)
  endsNodup := wellFormed.endsNodup.sublist (List.filter_sublist.map _)
  sourceKeys := fun _ kept => (wellFormed.mem_ends_filter marker kept).1
  destinationKeys := fun _ kept => (wellFormed.mem_ends_filter marker kept).2

end Neighborhood

end DefectGraph.Graph
