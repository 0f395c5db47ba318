import DefectGraph.Proofs.Component
import DefectGraph.Proofs.Extraction

/-!
# Numbers of nodes

Numbers are drawn in order, so the nodes of a neighborhood stand in the order of their numbers as long as
no number is drawn twice.

## Main Definitions

* `Ascending` - numbers that rise from one bound to another.
* `Extracted` - a neighborhood without groups, in the order of the numbers.
* `Expanded` - what a neighborhood is like after it was extracted, filtered and numbered.

## Main Statements

* `extracted_of_extract?` - extracting keeps nodes in the order of their numbers.
* `Extracted.partition` - numbering the groups of an extracted neighborhood expands it.

## Design Notes

Whether all numbers drawn differ is known only after the last one, so the facts about numbers are
implications from what has been drawn at the end.
-/

namespace DefectGraph.Graph

open DefectGraph.Source

/-! ### Rising numbers -/

/-- The numbers rise, from the lower bound on, and stay below the upper bound. -/
structure Ascending (low high : Nat) (numbers : List Nat) : Prop where
  rising : numbers.Pairwise (· < ·)
  low : ∀ n ∈ numbers, low ≤ n
  high : ∀ n ∈ numbers, n < high

namespace Ascending

variable {low middle high : Nat} {first second : List Nat}

theorem nil (low high : Nat) : Ascending low high [] :=
  ⟨.nil, by simp, by simp⟩

theorem singleton (number : Nat) : Ascending number (number + 1) [number] :=
  ⟨List.pairwise_singleton _ _, by simp, by simp⟩

/-- Numbers that are drawn later are greater. -/
theorem append (one : Ascending low middle first) (two : Ascending middle high second)
    (lowMiddle : low ≤ middle) (middleHigh : middle ≤ high) :
    Ascending low high (first ++ second) where
  rising := by
    refine List.pairwise_append.mpr ⟨one.rising, two.rising, fun a before b after => ?_⟩
    exact lt_of_lt_of_le (one.high a before) (two.low b after)
  low := by
    intro n present
    rcases List.mem_append.mp present with before | after
    · exact one.low n before
    · exact lowMiddle.trans (two.low n after)
  high := by
    intro n present
    rcases List.mem_append.mp present with before | after
    · exact (one.high n before).trans_le middleHigh
    · exact two.high n after

/-- Leaving numbers out keeps the others ascending. -/
theorem sublist (all : Ascending low high first) (part : second.Sublist first) :
    Ascending low high second :=
  ⟨all.rising.sublist part, fun n present => all.low n (part.subset present),
    fun n present => all.high n (part.subset present)⟩

/-- No number is drawn twice. -/
theorem nodup (all : Ascending low high first) : first.Nodup :=
  all.rising.imp fun below => ne_of_lt below

end Ascending

/-! ### Counts of numbers drawn -/

/-- No more numbers have been drawn in the first count than in the second. -/
instance : LE Ids := ⟨fun a b => a.nodes ≤ b.nodes ∧ a.groups ≤ b.groups⟩

@[simp]
theorem Ids.le_refl (ids : Ids) : ids ≤ ids := ⟨Nat.le_refl _, Nat.le_refl _⟩

theorem Ids.le_trans {a b c : Ids} (first : a ≤ b) (second : b ≤ c) : a ≤ c :=
  ⟨Nat.le_trans first.1 second.1, Nat.le_trans first.2 second.2⟩

/-- No number has been drawn twice. -/
structure Ids.Distinct (ids : Ids) : Prop where
  nodes : ids.nodes ≤ idLimit
  groups : ids.groups ≤ idLimit

/-- Before the last number is drawn, all are below the limit. -/
theorem Ids.Distinct.of_le {a b : Ids} (distinct : b.Distinct) (before : a ≤ b) : a.Distinct :=
  ⟨Nat.le_trans before.1 distinct.nodes, Nat.le_trans before.2 distinct.groups⟩

/-- Below the limit the next node has the number that is up. -/
theorem Ids.nextNode_fst {ids : Ids} (fits : ids.nodes < idLimit) : ids.nextNode.1 = ids.nodes :=
  Nat.mod_eq_of_lt fits

/-! ### Extraction -/

@[simp]
theorem ids_mark (tree : Tree) (p : Progress) (decl : DeclId) :
    (p.mark tree decl).hood.nodes.map Node.id = p.hood.nodes.map Node.id := by
  rw [Progress.mark, Neighborhood.updateNode, List.map_map]
  apply List.map_congr_left
  intro n _
  by_cases here : n.decl = decl
  · simp [here]
  · simp [here]

/-- Exploring draws node numbers and no group numbers. -/
theorem ExploreInvariant.counts (template : Template) (tree : Tree) (start : Ids) :
    ExploreInvariant template tree fun p =>
      start.nodes ≤ p.ids.nodes ∧ p.ids.groups = start.groups where
  mark drawn _ := drawn
  addTarget {p source target} drawn _ _ := by
    by_cases known : target ∈ p.hood.keys
    · rw [addTarget_of_mem template tree p source target known]
      exact drawn
    · rw [addTarget_of_notMem template tree p source target known]
      exact ⟨Nat.le_succ_of_le drawn.1, drawn.2⟩

/-- Exploring puts nodes in the order in which it draws their numbers. -/
theorem ExploreInvariant.ascending (template : Template) (tree : Tree) (low : Nat) :
    ExploreInvariant template tree fun p => low ≤ p.ids.nodes ∧
      (p.ids.nodes ≤ idLimit → Ascending low p.ids.nodes (p.hood.nodes.map Node.id)) where
  mark {p decl} drawn _ := by
    refine ⟨drawn.1, fun fits => ?_⟩
    rw [ids_mark]
    exact drawn.2 fits
  addTarget {p source target} drawn _ _ := by
    by_cases known : target ∈ p.hood.keys
    · rw [addTarget_of_mem template tree p source target known]
      refine ⟨drawn.1, fun fits => ?_⟩
      rw [Neighborhood.nodes_addEdge]
      exact drawn.2 fits
    · rw [addTarget_of_notMem template tree p source target known]
      refine ⟨Nat.le_succ_of_le drawn.1, fun fits => ?_⟩
      have number : p.ids.nextNode.1 = p.ids.nodes := Ids.nextNode_fst fits
      -- The new node goes last and takes the number just drawn, which is above all others.
      rw [Neighborhood.nodes_addEdge, Neighborhood.putNode_of_notMem _ _ known, List.map_append,
        number]
      exact (drawn.2 (Nat.le_of_succ_le fits)).append (.singleton p.ids.nodes) drawn.1 (Nat.le_succ _)

/-- Exploring puts no node in a group. -/
theorem ExploreInvariant.ungrouped (template : Template) (tree : Tree) :
    ExploreInvariant template tree fun p => ∀ n ∈ p.hood.nodes, n.graphId = none :=
  nodes (fun _ _ => rfl) fun _ _ _ ungrouped => ungrouped

/-- Merging seeds keeps them in the order of their numbers. -/
theorem Seeded.ids_sublist {seeds : List Node} {h : Neighborhood} (seeded : Seeded seeds h) :
    (h.nodes.map Node.id).Sublist (seeds.map Node.id) := by
  have numbers := seeded.nodes.map Node.id
  rwa [List.map_map, List.map_map] at numbers

/-- Merging seeds gives nodes that have no group. -/
theorem Seeded.ungrouped {seeds : List Node} {h : Neighborhood} (seeded : Seeded seeds h)
    (ungrouped : ∀ seed ∈ seeds, seed.graphId = none) : ∀ n ∈ h.nodes, n.graphId = none := by
  intro n present
  obtain ⟨seed, among, same⟩ := seeded.exists_seed present
  rw [same]
  exact ungrouped seed among

/-- Extraction draws node numbers and no group numbers. -/
theorem extract?_counts {template : Template} {tree : Tree} {seeds : List Node} {start after : Ids}
    {hood : Neighborhood} {events : List Event}
    (extracted : extract? template tree seeds start = some (hood, events, after)) :
    start.nodes ≤ after.nodes ∧ after.groups = start.groups := by
  obtain ⟨⟨merged, mergeEvents⟩, merge, _⟩ := Option.bind_eq_some_iff.mp extracted
  rw [extract?_eq_some template tree start merge] at extracted
  cases extracted
  exact (ExploreInvariant.counts template tree start).exploreEach (.start merged start mergeEvents) _
    ⟨Nat.le_refl _, rfl⟩ fun decl => ((Seeded.ofSeeds merge).keys decl).mpr

/-- A neighborhood without groups whose nodes stand in the order of their numbers. -/
structure Extracted (low : Nat) (ids : Ids) (hood : Neighborhood) : Prop where
  wellFormed : hood.WellFormed
  ungrouped : ∀ n ∈ hood.nodes, n.graphId = none
  ascending : ids.nodes ≤ idLimit → Ascending low ids.nodes (hood.nodes.map Node.id)

/-- Seeds in the order in which their numbers were drawn between two counts. -/
structure SeedsDrawn (start after : Ids) (seeds : List Node) : Prop where
  ungrouped : ∀ seed ∈ seeds, seed.graphId = none
  nodes : start.nodes ≤ after.nodes
  groups : after.groups = start.groups
  ascending : after.nodes ≤ idLimit → Ascending start.nodes after.nodes (seeds.map Node.id)

theorem SeedsDrawn.nil (ids : Ids) : SeedsDrawn ids ids [] :=
  ⟨by simp, Nat.le_refl _, rfl, fun _ => .nil _ _⟩

/-- The first seed has the first number, the others have numbers drawn after it. -/
theorem SeedsDrawn.cons {ids after : Ids} {seed : Node} {seeds : List Node}
    (drawn : SeedsDrawn ids.nextNode.2 after seeds) (number : seed.id = ids.nextNode.1)
    (ungrouped : seed.graphId = none) : SeedsDrawn ids after (seed :: seeds) where
  ungrouped := List.forall_mem_cons.mpr ⟨ungrouped, drawn.ungrouped⟩
  nodes := Nat.le_of_succ_le drawn.nodes
  groups := drawn.groups
  ascending := by
    intro fits
    have first : seed.id = ids.nodes := number.trans (Ids.nextNode_fst (drawn.nodes.trans fits))
    rw [List.map_cons, first]
    exact (Ascending.singleton ids.nodes).append (drawn.ascending fits) (Nat.le_succ _) drawn.nodes

/-- Extraction keeps nodes in the order of their numbers. -/
theorem extracted_of_extract? {template : Template} {tree : Tree} {seeds : List Node}
    {start between after : Ids} {hood : Neighborhood} {events : List Event}
    (drawn : SeedsDrawn start between seeds)
    (extracted : extract? template tree seeds between = some (hood, events, after)) :
    Extracted start.nodes after hood := by
  obtain ⟨⟨merged, mergeEvents⟩, merge, _⟩ := Option.bind_eq_some_iff.mp extracted
  rw [extract?_eq_some template tree between merge] at extracted
  cases extracted
  have seeded := Seeded.ofSeeds merge
  have nodes : ∀ decl ∈ seeds.map Node.decl, decl ∈ merged.keys := fun decl => (seeded.keys decl).mpr
  refine ⟨?_, ?_, ?_⟩
  · exact (ExploreInvariant.wellFormed template tree).exploreEach
      (.start merged between mergeEvents) _ seeded.wellFormed nodes
  · exact (ExploreInvariant.ungrouped template tree).exploreEach
      (.start merged between mergeEvents) _ (seeded.ungrouped drawn.ungrouped) nodes
  · exact ((ExploreInvariant.ascending template tree start.nodes).exploreEach
      (.start merged between mergeEvents) _
      ⟨drawn.nodes, fun fits => (drawn.ascending fits).sublist seeded.ids_sublist⟩ nodes).2

/-! ### Extracting, filtering and numbering -/

/-- Numbering groups draws group numbers and no node numbers. -/
theorem partition_counts (h : Neighborhood) (keepIsolated : Bool) (ids : Ids) :
    (h.partition keepIsolated ids).2.2.nodes = ids.nodes ∧
      ids.groups ≤ (h.partition keepIsolated ids).2.2.groups := by
  have edges := numberEdges_spec (.ofEdges h.edges) [] ids h.edges
  cases keepIsolated with
  | false => exact ⟨edges.nodesDrawn, edges.groupsDrawn⟩
  | true =>
    have seeds := numberIsolated_spec (numberEdges (.ofEdges h.edges) [] ids h.edges).2.2
      (h.nodes.map (Node.numbered (numberEdges (.ofEdges h.edges) [] ids h.edges).1))
    exact ⟨seeds.nodesDrawn.trans edges.nodesDrawn, edges.groupsDrawn.trans seeds.groupsDrawn⟩

/-- What a neighborhood is like after it was extracted, filtered and numbered; `ids` has been drawn
before the groups were numbered, and `after` when all is done. -/
structure Expanded (keepIsolated : Bool) (low : Nat) (ids after : Ids) (hood : Neighborhood) :
    Prop where
  wellFormed : hood.WellFormed
  edgeNumber : ∀ e ∈ hood.edges, e.graphId.isSome = true
  touched : ∀ n ∈ hood.nodes, ∀ e ∈ hood.edges, e.Touches n.decl → n.graphId = e.graphId
  isolated : keepIsolated = false → ∀ n ∈ hood.nodes, n.graphId.isSome = true →
    ∃ e ∈ hood.edges, e.Touches n.decl
  ascending : after.nodes ≤ idLimit → Ascending low after.nodes (hood.nodes.map Node.id)
  groups : after.groups ≤ idLimit → ∀ n ∈ hood.nodes, ∀ id, n.graphId = some id →
    ids.groups ≤ id ∧ id < after.groups

/-- Filtering keeps what is known of the numbers. -/
theorem Extracted.filter {low : Nat} {ids : Ids} {hood : Neighborhood}
    (extracted : Extracted low ids hood) (marker : String) :
    Extracted low ids (hood.filter marker) where
  wellFormed := extracted.wellFormed.filter marker
  ungrouped := fun n kept =>
    extracted.ungrouped n ((hood.nodes_filter_sublist marker).subset kept)
  ascending := fun fits =>
    (extracted.ascending fits).sublist ((hood.nodes_filter_sublist marker).map Node.id)

/-- Splitting into components gives groups numbers of their own. -/
theorem Extracted.partition {low : Nat} {ids : Ids} {hood : Neighborhood}
    (extracted : Extracted low ids hood) (keepIsolated : Bool) :
    Expanded keepIsolated low ids (hood.partition keepIsolated ids).2.2
      (hood.partition keepIsolated ids).1 := by
  have partitioned := partition_spec hood keepIsolated ids extracted.ungrouped
  have keys := partitioned.keys
  have numbers : (hood.partition keepIsolated ids).1.nodes.map Node.id = hood.nodes.map Node.id := by
    have mapped := congrArg (List.map Node.id) partitioned.nodes
    rwa [List.map_map, List.map_map] at mapped
  have counts := (partition_counts hood keepIsolated ids).1
  refine ⟨⟨?_, ?_, ?_, ?_⟩, partitioned.edgeNumber, partitioned.touched, partitioned.isolated, ?_,
    partitioned.drawn⟩
  · exact keys ▸ extracted.wellFormed.keysNodup
  · exact partitioned.ends ▸ extracted.wellFormed.endsNodup
  · exact keys ▸ partitioned.ends ▸ extracted.wellFormed.sourceKeys
  · exact keys ▸ partitioned.ends ▸ extracted.wellFormed.destinationKeys
  · intro fits
    rw [numbers, counts]
    exact extracted.ascending (counts ▸ fits)

end DefectGraph.Graph
