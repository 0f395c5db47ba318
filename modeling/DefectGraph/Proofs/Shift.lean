import DefectGraph.Graph.Component
import DefectGraph.Proofs.Extraction

/-!
# Numbers drawn later

What is extracted, shown and grouped does not depend on how many numbers were drawn before: the same
steps from later counts give the same nodes and edges with later numbers.

## Main Definitions

* `Ids.shift` - counts after so many more numbers were drawn.
* `Node.shift`, `Edge.shift`, `Neighborhood.shift` - the same with the numbers drawn from there on.

## Main Statements

* `extract?_shift` - extraction from later counts.
* `Neighborhood.filter_shift`, `Neighborhood.partition_shift` - the same for what is shown and for groups.

## Design Notes

Numbers start again after the last one, and a shifted number does so too. The equations therefore hold
whatever the counts are; that numbers are simply larger is a matter of bounds, added later.
-/

namespace DefectGraph.Graph

open DefectGraph.Source

/-! ### Numbers -/

/-- Counts when the numbers of `offset` were drawn before. -/
def Ids.shift (offset ids : Ids) : Ids := ⟨ids.nodes + offset.nodes, ids.groups + offset.groups⟩

/-- The node number drawn in the place of another. -/
def Ids.laterNode (offset : Ids) (id : Nat) : Nat := (id + offset.nodes) % idLimit

/-- The group number drawn in the place of another. -/
def Ids.laterGroup (offset : Ids) (id : Nat) : Nat := (id + offset.groups) % idLimit

@[simp]
theorem Ids.shift_zero (offset : Ids) : offset.shift .zero = offset := by
  simp [Ids.shift, Ids.zero]

/-- Drawing the next node later gives a later number. -/
theorem Ids.nextNode_shift (offset ids : Ids) :
    (offset.shift ids).nextNode = (offset.laterNode ids.nextNode.1, offset.shift ids.nextNode.2) := by
  simp [Ids.nextNode, Ids.shift, Ids.laterNode, Nat.add_right_comm]

/-- So does drawing the next group. -/
theorem Ids.nextGroup_shift (offset ids : Ids) :
    (offset.shift ids).nextGroup =
      (offset.laterGroup ids.nextGroup.1, offset.shift ids.nextGroup.2) := by
  simp [Ids.nextGroup, Ids.shift, Ids.laterGroup, Nat.add_right_comm]

/-- The node with numbers drawn later. -/
def Node.shift (offset : Ids) (n : Node) : Node :=
  { n with id := offset.laterNode n.id, graphId := n.graphId.map offset.laterGroup }

/-- The edge with a number drawn later. -/
def Edge.shift (offset : Ids) (e : Edge) : Edge :=
  { e with graphId := e.graphId.map offset.laterGroup }

section

variable (offset : Ids)

@[simp]
theorem Node.decl_shift (n : Node) : (n.shift offset).decl = n.decl := rfl

@[simp]
theorem Edge.source_shift (e : Edge) : (e.shift offset).source = e.source := rfl

@[simp]
theorem Edge.destination_shift (e : Edge) : (e.shift offset).destination = e.destination := rfl

/-- Numbers do not matter for merging two nodes. -/
theorem Node.absorb?_shift (n other : Node) :
    (n.shift offset).absorb? (other.shift offset) = (n.absorb? other).map (Node.shift offset) := by
  unfold Node.absorb?
  change (if other.seed then _ else _) = _
  split
  · rw [Option.map_map]
    rfl
  · rfl

/-! ### Neighborhoods -/

namespace Neighborhood

/-- The neighborhood with numbers drawn later. -/
def shift (h : Neighborhood) : Neighborhood :=
  ⟨h.nodes.map (Node.shift offset), h.edges.map (Edge.shift offset)⟩

variable (h : Neighborhood)

/-- The node of a declaration is found with its later number. -/
@[simp]
theorem node?_shift (decl : DeclId) :
    (h.shift offset).node? decl = (h.node? decl).map (Node.shift offset) := by
  unfold node?
  exact List.find?_map

@[simp]
theorem hasNode_shift (decl : DeclId) : (h.shift offset).hasNode decl = h.hasNode decl := by
  unfold hasNode
  exact List.any_map

/-- Numbers do not matter for which edges there are. -/
@[simp]
theorem hasEdge_shift (source destination : DeclId) :
    (h.shift offset).hasEdge source destination = h.hasEdge source destination := by
  unfold hasEdge
  exact List.any_map

/-- A change that treats numbers alike can be made before or after. -/
theorem updateNode_shift (decl : DeclId) {change later : Node → Node}
    (alike : ∀ n, later (n.shift offset) = (change n).shift offset) :
    (h.shift offset).updateNode decl later = (h.updateNode decl change).shift offset := by
  unfold updateNode shift
  simp only [List.map_map]
  congr 1
  refine List.map_congr_left fun n _ => ?_
  change (if n.decl == decl then later (n.shift offset) else n.shift offset) =
    (if n.decl == decl then change n else n).shift offset
  split
  · exact alike n
  · rfl

/-- Adding a node later is adding the later node. -/
@[simp]
theorem putNode_shift (n : Node) :
    (h.shift offset).putNode (n.shift offset) = (h.putNode n).shift offset := by
  unfold putNode
  rw [hasNode_shift, Node.decl_shift]
  split
  · exact updateNode_shift offset h n.decl fun _ => rfl
  · simp [shift]

/-- Adding an edge does not draw a number. -/
@[simp]
theorem addEdge_shift (source destination : DeclId) :
    (h.shift offset).addEdge source destination = (h.addEdge source destination).shift offset := by
  unfold addEdge
  rw [hasEdge_shift]
  split
  · rfl
  · simp [shift, Edge.shift]

/-- Merging a seed later gives the same neighborhood, with later numbers. -/
theorem absorb?_shift (n : Node) :
    (h.shift offset).absorb? (n.shift offset) = (h.absorb? n).map (Neighborhood.shift offset) := by
  unfold absorb?
  rw [Node.decl_shift, node?_shift]
  cases h.node? n.decl with
  | none => rfl
  | some first =>
    simp only [Option.map_some, Option.bind_eq_bind, Option.bind_some, Node.absorb?_shift]
    cases first.absorb? n with
    | none => rfl
    | some joined => exact congrArg some (updateNode_shift offset h n.decl fun _ => rfl)

/-- Numbers do not matter for what is hidden. -/
@[simp]
theorem hidden_shift (marker : String) : (h.shift offset).hidden marker = h.hidden marker := by
  unfold hidden shift
  rw [List.filter_map, List.map_map]
  rfl

/-- What is hidden does not depend on numbers. -/
theorem filter_shift (marker : String) :
    (h.shift offset).filter marker = (h.filter marker).shift offset := by
  unfold filter
  rw [hidden_shift]
  simp only [shift, List.filter_map]
  rfl

end Neighborhood

/-! ### Extraction -/

/-- Extraction with numbers drawn later. -/
def Progress.shift (p : Progress) : Progress :=
  { p with hood := p.hood.shift offset, ids := offset.shift p.ids }

variable (template : Template) (tree : Tree) (p : Progress)

/-- A node that is discovered later has a later number. -/
theorem discover_shift (decl : DeclId) (ids : Ids) :
    template.discover tree decl (offset.shift ids) =
      ((template.discover tree decl ids).1.shift offset,
        offset.shift (template.discover tree decl ids).2) := by
  simp [Template.discover, Ids.nextNode_shift, Template.node, Node.shift]

/-- Adding a target later gives the same progress, with later numbers. -/
@[simp]
theorem addTarget_shift (source target : DeclId) :
    (p.shift offset).addTarget template tree source target =
      (p.addTarget template tree source target).shift offset := by
  unfold Progress.addTarget Progress.shift
  rw [Neighborhood.hasNode_shift]
  split
  · simp [Neighborhood.addEdge_shift]
  · simp [discover_shift, Neighborhood.putNode_shift, Neighborhood.addEdge_shift]

/-- Numbers do not matter for what a declaration says of itself. -/
@[simp]
theorem mark_shift (decl : DeclId) : (p.shift offset).mark tree decl = (p.mark tree decl).shift offset := by
  unfold Progress.mark
  change Progress.mk ((p.hood.shift offset).updateNode decl _) _ _ _ = Progress.mk _ _ _ _
  congr 1
  exact Neighborhood.updateNode_shift offset p.hood decl fun _ => rfl

/-- A later visit gives the same progress, with later numbers. -/
@[simp]
theorem visit_shift (decl : DeclId) :
    (p.shift offset).visit template tree decl = (p.visit template tree decl).shift offset := by
  rw [visit_eq, visit_eq, mark_shift]
  exact List.foldl_hom (Progress.shift offset) fun q target =>
    addTarget_shift offset template tree q decl target

/-- Exploring from later counts visits the same declarations. -/
theorem explore_shift (stack : List DeclId) :
    explore template tree (p.shift offset) stack = (explore template tree p stack).shift offset := by
  fun_induction explore template tree p stack with
  | case1 p => rw [explore]
  | case2 p decl rest fresh p' next _ ih =>
    have freshLater : (p.shift offset).visited.contains decl = false ∧ decl < tree.decls.length := fresh
    rw [explore, dif_pos freshLater]
    simp only [visit_shift]
    exact ih
  | case3 p decl rest seen ih =>
    have seenLater : ¬((p.shift offset).visited.contains decl = false ∧ decl < tree.decls.length) := seen
    rw [explore, dif_neg seenLater]
    exact ih

/-- So does exploring from all starts. -/
theorem exploreEach_shift (starts : List DeclId) :
    exploreEach template tree (p.shift offset) starts =
      (exploreEach template tree p starts).shift offset :=
  List.foldl_hom (Progress.shift offset) fun q decl => explore_shift offset template tree q [decl]

/-- A seed is merged in the same way later, and overflows in the same case. -/
theorem addSeed?_shift (hood : Neighborhood) (events : List Event) (seed : Node) :
    addSeed? (hood.shift offset, events) (seed.shift offset) =
      (addSeed? (hood, events) seed).map fun state => (state.1.shift offset, state.2) := by
  unfold addSeed?
  simp only [Neighborhood.hasNode_shift, Node.decl_shift]
  split
  · rw [Neighborhood.absorb?_shift, Option.map_map, Option.map_map]
    rfl
  · simp [Neighborhood.putNode_shift]

/-- So are all seeds. -/
theorem addSeeds_shift (seeds : List Node) (state : Neighborhood × List Event) :
    (seeds.map (Node.shift offset)).foldlM addSeed? (state.1.shift offset, state.2) =
      (seeds.foldlM addSeed? state).map fun state => (state.1.shift offset, state.2) := by
  induction seeds generalizing state with
  | nil => rfl
  | cons seed rest ih =>
    rw [List.map_cons, List.foldlM_cons, List.foldlM_cons, addSeed?_shift]
    cases addSeed? state seed with
    | none => rfl
    | some next => exact ih next

/-- Extraction from later counts finds the same nodes and edges, with later numbers. -/
theorem extract?_shift (seeds : List Node) (ids : Ids) :
    extract? template tree (seeds.map (Node.shift offset)) (offset.shift ids) =
      (extract? template tree seeds ids).map fun found =>
        (found.1.shift offset, found.2.1, offset.shift found.2.2) := by
  unfold extract?
  have added : addSeeds? (seeds.map (Node.shift offset)) =
      (addSeeds? seeds).map fun state => (state.1.shift offset, state.2) :=
    addSeeds_shift offset seeds (.empty, [])
  have starts : (seeds.map (Node.shift offset)).map Node.decl = seeds.map Node.decl := by
    rw [List.map_map]
    rfl
  rw [added, starts]
  cases addSeeds? seeds with
  | none => rfl
  | some state =>
    have explored := exploreEach_shift offset template tree ⟨state.1, [], ids, state.2⟩
      (seeds.map Node.decl)
    unfold exploreEach at explored
    simp only [Option.map_some, Option.bind_eq_bind, Option.bind_some]
    exact congrArg (fun p : Progress => some (p.hood, p.events, p.ids)) explored

/-! ### Groups -/

/-- Numbers do not matter for which edges belong together. -/
@[simp]
theorem Labels.ofEdges_shift (edges : List Edge) :
    Labels.ofEdges (edges.map (Edge.shift offset)) = Labels.ofEdges edges := by
  unfold Labels.ofEdges Labels.ofEnds
  rw [List.flatMap_map, List.foldl_map]
  rfl

/-- The groups with numbers drawn later. -/
def Groups.shift (groups : Groups) : Groups := groups.map fun x => (x.1, offset.laterGroup x.2)

/-- The group of a label is found with its later number. -/
theorem Groups.lookup_shift (groups : Groups) (label : DeclId) :
    (groups.shift offset).lookup label = (groups.lookup label).map offset.laterGroup := by
  induction groups with
  | nil => rfl
  | cons first rest ih =>
    change List.lookup label ((first.1, _) :: Groups.shift offset rest) = _
    rw [List.lookup_cons, List.lookup_cons, ih]
    cases label == first.1 <;> rfl

/-- Edges that are numbered later have later numbers. -/
theorem numberEdges_shift (labels : Labels) (groups : Groups) (ids : Ids) (edges : List Edge) :
    numberEdges labels (groups.shift offset) (offset.shift ids) (edges.map (Edge.shift offset)) =
      let numbered := numberEdges labels groups ids edges
      (numbered.1.map (Edge.shift offset), numbered.2.1.shift offset, offset.shift numbered.2.2) := by
  induction edges generalizing groups ids with
  | nil => rfl
  | cons e rest ih =>
    simp only [List.map_cons, numberEdges, Edge.source_shift, Groups.lookup_shift]
    cases groups.lookup (labels.of e.source) with
    | some id =>
      simp only [Option.map_some, ih]
      rfl
    | none =>
      have extended : groups.shift offset ++ [(labels.of e.source, offset.laterGroup ids.nextGroup.1)] =
          Groups.shift offset (groups ++ [(labels.of e.source, ids.nextGroup.1)]) := by
        simp [Groups.shift]
      simp only [Option.map_none, Ids.nextGroup_shift, extended, ih]
      rfl

/-- The number at a declaration is that of its first edge, a later one. -/
theorem numberAt?_shift (edges : List Edge) (decl : DeclId) :
    numberAt? (edges.map (Edge.shift offset)) decl =
      (numberAt? edges decl).map offset.laterGroup := by
  unfold numberAt?
  rw [← List.map_reverse, List.find?_map, Option.bind_map, Option.map_bind]
  rfl

theorem Node.numbered_shift (edges : List Edge) (n : Node) :
    (n.shift offset).numbered (edges.map (Edge.shift offset)) = (n.numbered edges).shift offset := by
  unfold Node.numbered
  rw [Node.decl_shift, numberAt?_shift]
  simp only [Node.shift, Option.map_or]

/-- Isolated nodes that are numbered later have later numbers. -/
theorem numberIsolated_shift (ids : Ids) (nodes : List Node) :
    numberIsolated (offset.shift ids) (nodes.map (Node.shift offset)) =
      let numbered := numberIsolated ids nodes
      (numbered.1.map (Node.shift offset), numbered.2.1, offset.shift numbered.2.2) := by
  induction nodes generalizing ids with
  | nil => rfl
  | cons n rest ih =>
    have alone : ((n.shift offset).graphId.isNone && (n.shift offset).seed) =
        (n.graphId.isNone && n.seed) := by
      simp [Node.shift]
    simp only [List.map_cons, numberIsolated, alone]
    split
    · simp only [Ids.nextGroup_shift, ih]
      rfl
    · simp only [ih]
      rfl

/-- Groups are the same from later counts, with later numbers. -/
theorem Neighborhood.partition_shift (h : Neighborhood) (keepIsolated : Bool) (ids : Ids) :
    (h.shift offset).partition keepIsolated (offset.shift ids) =
      let numbered := h.partition keepIsolated ids
      (numbered.1.shift offset, numbered.2.1, offset.shift numbered.2.2) := by
  have edges := numberEdges_shift offset (Labels.ofEdges h.edges) [] ids h.edges
  have nodes : ∀ edges : List Edge, (h.nodes.map (Node.shift offset)).map
      (Node.numbered (edges.map (Edge.shift offset))) =
      (h.nodes.map (Node.numbered edges)).map (Node.shift offset) := by
    intro edges
    rw [List.map_map, List.map_map]
    exact List.map_congr_left fun n _ => Node.numbered_shift offset edges n
  unfold partition
  simp only [shift, Labels.ofEdges_shift]
  change numberEdges _ (Groups.shift offset []) _ _ = _ at edges
  have start : Groups.shift offset [] = [] := rfl
  rw [start] at edges
  simp only [edges, nodes]
  split
  · simp only [numberIsolated_shift, Groups.shift, List.length_map]
  · simp [Groups.shift]

end

end DefectGraph.Graph
