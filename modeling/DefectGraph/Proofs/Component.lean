import DefectGraph.Graph.Component
import DefectGraph.Proofs.Neighborhood

/-!
# Numbers of groups

What numbering the groups of a neighborhood does to its nodes and edges.

## Main Statements

* `Labels.of_ofEdges` - the two ends of an edge have one label.
* `numberEdges_spec` - an edge gets the number of the label of its ends.
* `numberIsolated_getElem?` - the numbers of isolated seeds, place by place.
* `partition_spec` - after numbering, a node has the number of every edge that touches it.

## Design Notes

`EdgesNumbered`, `IsolatedNumbered` and `Partitioned` each say all that is known about the result of one
of three steps, and every later argument reads their fields instead of the loops. Numbers are drawn from a
counter that may run out, so what is said about drawn numbers holds as long as the count stays below its
limit, while what is said about ends, nodes and labels holds in any case.
-/

namespace DefectGraph.Graph

open DefectGraph.Source (DeclId)

/-! ### Labels -/

namespace Labels

/-- The declaration has a label. -/
def Has (labels : Labels) (decl : DeclId) : Prop := (labels.lookup decl).isSome = true

/-- Changing all labels changes the one that is looked up. -/
@[simp]
theorem lookup_map (labels : Labels) (f : DeclId → DeclId) (decl : DeclId) :
    List.lookup decl (labels.map fun x => (x.1, f x.2)) = (labels.lookup decl).map f := by
  induction labels with
  | nil => rfl
  | cons first rest ih =>
    obtain ⟨key, label⟩ := first
    by_cases here : decl = key
    · simp [here]
    · simpa [List.lookup_cons, beq_false_of_ne here] using ih

/-- Joining keeps which declarations have labels. -/
theorem has_join (labels : Labels) (e : Edge) (decl : DeclId) :
    (labels.join e).Has decl ↔ labels.Has decl := by
  have looked := lookup_map labels
    (fun label => if label == labels.of e.destination then labels.of e.source else label) decl
  rw [Has, join, looked, Option.isSome_map, Has]

/-- Joining moves one label to another. -/
theorem of_join (labels : Labels) (e : Edge) {decl : DeclId} (has : labels.Has decl) :
    (labels.join e).of decl =
      if labels.of decl = labels.of e.destination then labels.of e.source else labels.of decl := by
  obtain ⟨label, found⟩ := Option.isSome_iff_exists.mp has
  have looked := lookup_map labels
    (fun label => if label == labels.of e.destination then labels.of e.source else label) decl
  rw [of, join, looked, found]
  simp [of, found]

/-- Joining an edge gives its ends one label. -/
theorem of_join_ends (labels : Labels) (e : Edge) (source : labels.Has e.source)
    (destination : labels.Has e.destination) :
    (labels.join e).of e.source = (labels.join e).of e.destination := by
  rw [of_join labels e source, of_join labels e destination]
  simp

/-- Declarations with one label keep one label. -/
theorem of_join_congr (labels : Labels) (e : Edge) {a b : DeclId} (hasA : labels.Has a)
    (hasB : labels.Has b) (same : labels.of a = labels.of b) :
    (labels.join e).of a = (labels.join e).of b := by
  rw [of_join labels e hasA, of_join labels e hasB, same]

/-- What has one label keeps having one. -/
theorem of_joinAll_congr (edges : List Edge) (labels : Labels) {a b : DeclId} (hasA : labels.Has a)
    (hasB : labels.Has b) (same : labels.of a = labels.of b) :
    (edges.foldl join labels).of a = (edges.foldl join labels).of b := by
  induction edges generalizing labels with
  | nil => exact same
  | cons e rest ih =>
    exact ih (labels.join e) ((has_join labels e a).mpr hasA) ((has_join labels e b).mpr hasB)
      (of_join_congr labels e hasA hasB same)

/-- The ends of each edge end up with one label. -/
theorem of_joinAll (edges : List Edge) (labels : Labels)
    (has : ∀ e ∈ edges, labels.Has e.source ∧ labels.Has e.destination) :
    ∀ e ∈ edges,
      (edges.foldl join labels).of e.source = (edges.foldl join labels).of e.destination := by
  induction edges generalizing labels with
  | nil => simp
  | cons first rest ih =>
    intro e present
    rw [List.foldl_cons]
    rcases List.mem_cons.mp present with rfl | later
    · -- The edge's own join makes its ends agree, and the later joins keep that.
      obtain ⟨source, destination⟩ := has e List.mem_cons_self
      exact of_joinAll_congr rest (labels.join e) ((has_join labels e _).mpr source)
        ((has_join labels e _).mpr destination) (of_join_ends labels e source destination)
    · refine ih (labels.join first) (fun other here => ?_) e later
      obtain ⟨source, destination⟩ := has other (List.mem_cons_of_mem _ here)
      exact ⟨(has_join labels first _).mpr source, (has_join labels first _).mpr destination⟩

/-- At the start everything has a label, itself. -/
theorem has_self (decls : List DeclId) {decl : DeclId} (present : decl ∈ decls) :
    Has (decls.map fun d => (d, d)) decl := by
  induction decls with
  | nil => cases present
  | cons first rest ih =>
    by_cases here : decl = first
    · simp [Has, here]
    · have later : decl ∈ rest := (List.mem_cons.mp present).resolve_left here
      simpa [Has, List.lookup_cons, beq_false_of_ne here] using ih later

/-- The ends of an edge have a label. -/
theorem has_ofEnds {edges : List Edge} {e : Edge} (present : e ∈ edges) :
    (ofEnds edges).Has e.source ∧ (ofEnds edges).Has e.destination := by
  have source : e.source ∈ edges.flatMap fun e => [e.source, e.destination] :=
    List.mem_flatMap.mpr ⟨e, present, by simp⟩
  have destination : e.destination ∈ edges.flatMap fun e => [e.source, e.destination] :=
    List.mem_flatMap.mpr ⟨e, present, by simp⟩
  exact ⟨has_self _ (List.mem_eraseDups.mpr source), has_self _ (List.mem_eraseDups.mpr destination)⟩

/-- The two ends of an edge have one label. -/
theorem of_ofEdges {edges : List Edge} {e : Edge} (present : e ∈ edges) :
    (ofEdges edges).of e.source = (ofEdges edges).of e.destination :=
  of_joinAll edges (ofEnds edges) (fun _ here => has_ofEnds here) e present

end Labels

/-! ### Edges -/

/-- Below the limit the next group has the number that is up. -/
theorem nextGroup_fst {ids : Ids} (fits : ids.groups < idLimit) : ids.nextGroup.1 = ids.groups :=
  Nat.mod_eq_of_lt fits

/-- What numbering edges gives: the same edges, each with the number of the label of its source, numbers
that are drawn in order, and nothing else drawn. -/
structure EdgesNumbered (labels : Labels) (groups : Groups) (ids : Ids) (edges : List Edge)
    (numbered : List Edge) (after : Groups) (idsAfter : Ids) : Prop where
  ends : numbered.map Edge.ends = edges.map Edge.ends
  kept : ∀ label id, groups.lookup label = some id → after.lookup label = some id
  number : ∀ e ∈ numbered, ∃ id, e.graphId = some id ∧ after.lookup (labels.of e.source) = some id
  nodesDrawn : idsAfter.nodes = ids.nodes
  groupsDrawn : ids.groups ≤ idsAfter.groups
  drawn : idsAfter.groups ≤ idLimit → ∀ label id, after.lookup label = some id →
    groups.lookup label = some id ∨ ids.groups ≤ id ∧ id < idsAfter.groups

/-- A new entry counts only for a label that had none. -/
theorem lookup_append_singleton (groups : Groups) (label other : DeclId) (id : Nat) :
    (groups ++ [(label, id)]).lookup other =
      (groups.lookup other).or (if other = label then some id else none) := by
  induction groups with
  | nil =>
    by_cases here : other = label
    · simp [here]
    · simp [List.lookup_cons, beq_false_of_ne here, here]
  | cons first rest ih =>
    obtain ⟨key, number⟩ := first
    by_cases here : other = key
    · simp [here]
    · simpa [List.lookup_cons, beq_false_of_ne here] using ih

/-- Edges are numbered by their labels, in the order in which the labels come up. -/
theorem numberEdges_spec (labels : Labels) (groups : Groups) (ids : Ids) (edges : List Edge) :
    EdgesNumbered labels groups ids edges (numberEdges labels groups ids edges).1
      (numberEdges labels groups ids edges).2.1 (numberEdges labels groups ids edges).2.2 := by
  induction edges generalizing groups ids with
  | nil =>
    exact ⟨rfl, fun _ _ found => found, by simp [numberEdges], rfl, Nat.le_refl _,
      fun _ _ _ => Or.inl⟩
  | cons e rest ih =>
    cases known : groups.lookup (labels.of e.source) with
    | some id =>
      have others := ih groups ids
      simp only [numberEdges, known]
      refine ⟨?_, others.kept, ?_, others.nodesDrawn, others.groupsDrawn, others.drawn⟩
      · rw [List.map_cons, List.map_cons, others.ends]
        rfl
      · intro other present
        rcases List.mem_cons.mp present with rfl | later
        · exact ⟨id, rfl, others.kept _ _ known⟩
        · exact others.number other later
    | none =>
      have others := ih (groups ++ [(labels.of e.source, ids.nextGroup.1)]) ids.nextGroup.2
      simp only [numberEdges, known]
      refine ⟨?_, ?_, ?_, others.nodesDrawn, ?_, ?_⟩
      · rw [List.map_cons, List.map_cons, others.ends]
        rfl
      · intro label id found
        apply others.kept
        rw [lookup_append_singleton, found]
        rfl
      · intro other present
        rcases List.mem_cons.mp present with rfl | later
        · refine ⟨ids.nextGroup.1, rfl, others.kept _ _ ?_⟩
          rw [lookup_append_singleton]
          simp [known]
        · exact others.number other later
      · exact Nat.le_trans (Nat.le_succ ids.groups) others.groupsDrawn
      · intro fits label id found
        have drawnOne : ids.groups < (numberEdges labels
            (groups ++ [(labels.of e.source, ids.nextGroup.1)]) ids.nextGroup.2 rest).2.2.groups :=
          others.groupsDrawn
        rcases others.drawn fits label id found with early | ⟨low, high⟩
        · rw [lookup_append_singleton] at early
          rcases Option.or_eq_some_iff.mp early with old | ⟨_, new⟩
          · exact Or.inl old
          · right
            split at new
            · cases new
              have number := nextGroup_fst (Nat.lt_of_lt_of_le drawnOne fits)
              exact ⟨Nat.le_of_eq number.symm, Nat.lt_of_le_of_lt (Nat.le_of_eq number) drawnOne⟩
            · cases new
        · exact Or.inr ⟨Nat.le_trans (Nat.le_succ ids.groups) low, high⟩

/-! ### Nodes -/

/-- The edge starts or ends at the declaration. -/
def Edge.Touches (e : Edge) (decl : DeclId) : Prop := e.source = decl ∨ e.destination = decl

/-- A declaration is touched when it is an end of an edge. -/
theorem Neighborhood.exists_touches_iff (h : Neighborhood) (decl : DeclId) :
    (∃ e ∈ h.edges, e.Touches decl) ↔ ∃ x ∈ h.ends, x.1 = decl ∨ x.2 = decl := by
  simp [Neighborhood.ends, Edge.ends, Edge.Touches]

/-- Where all edges at a declaration have one number, that is the number found there. -/
theorem numberAt?_eq {edges : List Edge} {decl : DeclId} {number : Option Nat}
    (all : ∀ e ∈ edges, e.Touches decl → e.graphId = number)
    (some : ∃ e ∈ edges, e.Touches decl) : numberAt? edges decl = number := by
  obtain ⟨e, present, touches⟩ := some
  cases found : edges.reverse.find? fun e => e.source == decl || e.destination == decl with
  | none =>
    have missing := List.find?_eq_none.mp found e (List.mem_reverse.mpr present)
    rcases touches with here | here
    · simp [here] at missing
    · simp [here] at missing
  | some last =>
    have there : last ∈ edges := List.mem_reverse.mp (List.mem_of_find?_eq_some found)
    have touched : last.Touches decl := by simpa [Edge.Touches] using List.find?_some found
    rw [numberAt?, found]
    exact all last there touched

/-- A declaration that no edge touches has no number from the edges. -/
theorem numberAt?_eq_none {edges : List Edge} {decl : DeclId}
    (untouched : ∀ e ∈ edges, ¬ e.Touches decl) : numberAt? edges decl = none := by
  have missing : (edges.reverse.find? fun e => e.source == decl || e.destination == decl) = none := by
    rw [List.find?_eq_none]
    intro e present
    have here := untouched e (List.mem_reverse.mp present)
    simpa [Edge.Touches] using here
  rw [numberAt?, missing]
  rfl

/-- The node with its group number left out. -/
def Node.withoutGroup (n : Node) : Node := { n with graphId := none }

/-- What numbering isolated seeds gives: the same nodes, numbers kept where there are any, and new ones
drawn in order. -/
structure IsolatedNumbered (ids : Ids) (nodes numbered : List Node) (idsAfter : Ids) : Prop where
  same : numbered.map Node.withoutGroup = nodes.map Node.withoutGroup
  number : ∀ n ∈ numbered, ∃ old ∈ nodes, n.withoutGroup = old.withoutGroup ∧
    (n.graphId = old.graphId ∨ old.graphId = none ∧ ∃ id, n.graphId = some id ∧
      (idsAfter.groups ≤ idLimit → ids.groups ≤ id ∧ id < idsAfter.groups))
  nodesDrawn : idsAfter.nodes = ids.nodes
  groupsDrawn : ids.groups ≤ idsAfter.groups

/-- Isolated nodes are numbered in order, and no others. -/
theorem numberIsolated_spec (ids : Ids) (nodes : List Node) :
    IsolatedNumbered ids nodes (numberIsolated ids nodes).1 (numberIsolated ids nodes).2.2 := by
  induction nodes generalizing ids with
  | nil => exact ⟨rfl, by simp [numberIsolated], rfl, Nat.le_refl _⟩
  | cons n rest ih =>
    by_cases isolated : (n.graphId.isNone && n.seed) = true
    · have others := ih ids.nextGroup.2
      have drawnOne : ids.groups < (numberIsolated ids.nextGroup.2 rest).2.2.groups :=
        others.groupsDrawn
      simp only [numberIsolated, isolated, if_true]
      refine ⟨?_, ?_, others.nodesDrawn, Nat.le_of_lt drawnOne⟩
      · rw [List.map_cons, List.map_cons, others.same]
        rfl
      · intro m present
        rcases List.mem_cons.mp present with rfl | later
        · refine ⟨n, List.mem_cons_self, rfl, Or.inr ⟨?_, _, rfl, fun fits => ?_⟩⟩
          · simpa using (Bool.and_eq_true_iff.mp isolated).1
          · have number := nextGroup_fst (Nat.lt_of_lt_of_le drawnOne fits)
            exact ⟨Nat.le_of_eq number.symm, Nat.lt_of_le_of_lt (Nat.le_of_eq number) drawnOne⟩
        · obtain ⟨old, before, same, number⟩ := others.number m later
          refine ⟨old, List.mem_cons_of_mem _ before, same, number.imp_right ?_⟩
          rintro ⟨unnumbered, id, numbered, bounds⟩
          refine ⟨unnumbered, id, numbered, fun fits => ?_⟩
          exact ⟨Nat.le_trans (Nat.le_succ _) (bounds fits).1, (bounds fits).2⟩
    · have others := ih ids
      simp only [numberIsolated, isolated]
      refine ⟨?_, ?_, others.nodesDrawn, others.groupsDrawn⟩
      · exact congrArg (n.withoutGroup :: ·) others.same
      · intro m present
        rcases List.mem_cons.mp present with rfl | later
        · exact ⟨m, List.mem_cons_self, rfl, Or.inl rfl⟩
        · obtain ⟨old, before, same, number⟩ := others.number m later
          exact ⟨old, List.mem_cons_of_mem _ before, same, number⟩

/-- The node is a seed without a group. -/
def Node.isIsolated (n : Node) : Bool := n.graphId.isNone && n.seed

/-- An isolated node takes the next number. -/
theorem numberIsolated_of_isolated (ids : Ids) {n : Node} (isolated : n.isIsolated = true)
    (rest : List Node) :
    numberIsolated ids (n :: rest) =
      ({ n with graphId := some ids.nextGroup.1 } :: (numberIsolated ids.nextGroup.2 rest).1,
        (numberIsolated ids.nextGroup.2 rest).2.1 + 1, (numberIsolated ids.nextGroup.2 rest).2.2) := by
  rw [numberIsolated]
  exact if_pos isolated

/-- Any other node takes none. -/
theorem numberIsolated_of_not_isolated (ids : Ids) {n : Node} (other : ¬ n.isIsolated = true)
    (rest : List Node) :
    numberIsolated ids (n :: rest) =
      (n :: (numberIsolated ids rest).1, (numberIsolated ids rest).2.1,
        (numberIsolated ids rest).2.2) := by
  rw [numberIsolated]
  exact if_neg other

/-- One number is drawn for each isolated seed. -/
theorem numberIsolated_ids (ids : Ids) (nodes : List Node) :
    (numberIsolated ids nodes).2.2 = ⟨ids.nodes, ids.groups + nodes.countP Node.isIsolated⟩ := by
  induction nodes generalizing ids with
  | nil => rfl
  | cons n rest ih =>
    by_cases isolated : n.isIsolated = true
    · rw [numberIsolated_of_isolated ids isolated, ih, List.countP_cons_of_pos isolated,
        Nat.add_comm (rest.countP _), ← Nat.add_assoc]
      rfl
    · rw [numberIsolated_of_not_isolated ids isolated, ih, List.countP_cons_of_neg isolated]

/-- As many numbers are drawn as there are isolated nodes. -/
@[simp]
theorem numberIsolated_groups (ids : Ids) (nodes : List Node) :
    (numberIsolated ids nodes).2.2.groups = ids.groups + nodes.countP Node.isIsolated := by
  rw [numberIsolated_ids]

/-- Every isolated seed gets the number that as many others come before. -/
theorem numberIsolated_getElem? (ids : Ids) (nodes : List Node) (place : Nat) :
    (numberIsolated ids nodes).1[place]? = nodes[place]?.map fun n =>
      if n.isIsolated then
        { n with
          graphId := some ((ids.groups + (nodes.take place).countP Node.isIsolated) % idLimit) }
      else n := by
  induction nodes generalizing ids place with
  | nil => rfl
  | cons n rest ih =>
    by_cases isolated : n.isIsolated = true
    · rw [numberIsolated_of_isolated ids isolated]
      cases place with
      | zero => simp [isolated, Ids.nextGroup]
      | succ place =>
        have next : ids.nextGroup.2.groups = ids.groups + 1 := rfl
        simp only [List.getElem?_cons_succ, ih, List.take_succ_cons,
          List.countP_cons_of_pos isolated, next, Nat.add_assoc, Nat.add_comm 1]
    · rw [numberIsolated_of_not_isolated ids isolated]
      cases place with
      | zero => simp [isolated]
      | succ place =>
        simp only [List.getElem?_cons_succ, ih, List.take_succ_cons,
          List.countP_cons_of_neg isolated]

/-! ### Neighborhoods -/

/-- What numbering the groups of a neighborhood without numbers gives. -/
structure Partitioned (h : Neighborhood) (keepIsolated : Bool) (ids : Ids) (numbered : Neighborhood)
    (idsAfter : Ids) : Prop where
  nodes : numbered.nodes.map Node.withoutGroup = h.nodes.map Node.withoutGroup
  ends : numbered.ends = h.ends
  edgeNumber : ∀ e ∈ numbered.edges, e.graphId.isSome = true
  /-- A node has the number of every edge that touches it. -/
  touched : ∀ n ∈ numbered.nodes, ∀ e ∈ numbered.edges, e.Touches n.decl → n.graphId = e.graphId
  drawn : idsAfter.groups ≤ idLimit → ∀ n ∈ numbered.nodes, ∀ id, n.graphId = some id →
    ids.groups ≤ id ∧ id < idsAfter.groups
  isolated : keepIsolated = false → ∀ n ∈ numbered.nodes, n.graphId.isSome = true →
    ∃ e ∈ numbered.edges, e.Touches n.decl

/-- Numbering keeps the declarations that have nodes. -/
theorem Partitioned.keys {h numbered : Neighborhood} {keepIsolated : Bool} {ids idsAfter : Ids}
    (partitioned : Partitioned h keepIsolated ids numbered idsAfter) : numbered.keys = h.keys := by
  have mapped := congrArg (List.map Node.decl) partitioned.nodes
  rwa [List.map_map, List.map_map] at mapped

/-- When isolated seeds are left alone, the nodes in groups are those that an edge touches. -/
theorem Partitioned.isSome_iff {h numbered : Neighborhood} {ids idsAfter : Ids}
    (partitioned : Partitioned h false ids numbered idsAfter) {n : Node} (present : n ∈ numbered.nodes) :
    n.graphId.isSome = true ↔ ∃ e ∈ numbered.edges, e.Touches n.decl := by
  refine ⟨partitioned.isolated rfl n present, ?_⟩
  rintro ⟨e, there, touches⟩
  rw [partitioned.touched n present e there touches]
  exact partitioned.edgeNumber e there

/-- Every edge at a declaration has the number of the declaration's label. -/
theorem EdgesNumbered.number_at {h : Neighborhood} {groups after : Groups} {ids idsAfter : Ids}
    {edges : List Edge}
    (numbering : EdgesNumbered (.ofEdges h.edges) groups ids h.edges edges after idsAfter)
    {e : Edge} (present : e ∈ edges) {decl : DeclId} (touches : e.Touches decl) :
    e.graphId = after.lookup ((Labels.ofEdges h.edges).of decl) := by
  obtain ⟨id, numbered, found⟩ := numbering.number e present
  have before : e.ends ∈ h.edges.map Edge.ends := by
    rw [← numbering.ends]
    exact List.mem_map_of_mem present
  obtain ⟨old, oldPresent, sameEnds⟩ := List.mem_map.mp before
  have sameLabel :
      (Labels.ofEdges h.edges).of e.source = (Labels.ofEdges h.edges).of e.destination := by
    have joined := Labels.of_ofEdges oldPresent
    rwa [show old.source = e.source from congrArg Prod.fst sameEnds,
      show old.destination = e.destination from congrArg Prod.snd sameEnds] at joined
  rcases touches with rfl | rfl
  · rw [numbered, found]
  · rw [numbered, ← sameLabel, found]

/-- Numbering the edges and the nodes that they touch, with isolated nodes left alone. -/
theorem partitioned_of_numberEdges (h : Neighborhood) (ids : Ids)
    (ungrouped : ∀ n ∈ h.nodes, n.graphId = none) :
    let numbered := numberEdges (.ofEdges h.edges) [] ids h.edges
    Partitioned h false ids ⟨h.nodes.map (Node.numbered numbered.1), numbered.1⟩ numbered.2.2 := by
  intro numbered
  have numbering := numberEdges_spec (.ofEdges h.edges) [] ids h.edges
  have graphId : ∀ n ∈ h.nodes.map (Node.numbered numbered.1),
      n.graphId = numberAt? numbered.1 n.decl := by
    intro n present
    obtain ⟨old, before, rfl⟩ := List.mem_map.mp present
    simp [Node.numbered, ungrouped old before]
  have atEdge : ∀ decl, ∀ e ∈ numbered.1, e.Touches decl →
      numberAt? numbered.1 decl = e.graphId := by
    intro decl e present touches
    refine numberAt?_eq (fun other there touched => ?_) ⟨e, present, touches⟩
    rw [numbering.number_at there touched, numbering.number_at present touches]
  have touchedOf : ∀ n ∈ h.nodes.map (Node.numbered numbered.1), n.graphId.isSome = true →
      ∃ e ∈ numbered.1, e.Touches n.decl := by
    intro n present hasNumber
    by_contra untouched
    rw [graphId n present, numberAt?_eq_none (by simpa using untouched)] at hasNumber
    cases hasNumber
  refine ⟨?_, numbering.ends, ?_, ?_, ?_, fun _ => touchedOf⟩
  · rw [List.map_map]
    rfl
  · intro e present
    obtain ⟨id, number, _⟩ := numbering.number e present
    rw [number]
    rfl
  · intro n present e there touches
    rw [graphId n present, atEdge n.decl e there touches]
  · intro fits n present id number
    obtain ⟨e, there, touches⟩ := touchedOf n present (by rw [number]; rfl)
    rw [graphId n present, atEdge n.decl e there touches, numbering.number_at there touches] at number
    exact (numbering.drawn fits _ id number).resolve_left (by simp)

/-- A neighborhood without groups is split into its components. -/
theorem partition_spec (h : Neighborhood) (keepIsolated : Bool) (ids : Ids)
    (ungrouped : ∀ n ∈ h.nodes, n.graphId = none) :
    Partitioned h keepIsolated ids (h.partition keepIsolated ids).1
      (h.partition keepIsolated ids).2.2 := by
  have first := partitioned_of_numberEdges h ids ungrouped
  have edges := numberEdges_spec (.ofEdges h.edges) [] ids h.edges
  cases keepIsolated with
  | false => exact first
  | true =>
    have second := numberIsolated_spec
      (numberEdges (.ofEdges h.edges) [] ids h.edges).2.2
      (h.nodes.map (Node.numbered (numberEdges (.ofEdges h.edges) [] ids h.edges).1))
    simp only [Neighborhood.partition, if_true]
    refine ⟨second.same.trans first.nodes, first.ends, first.edgeNumber, ?_, ?_, by simp⟩
    · intro n present e there touches
      obtain ⟨old, before, same, number⟩ := second.number n present
      have decl : n.withoutGroup.decl = old.withoutGroup.decl := congrArg Node.decl same
      change n.decl = old.decl at decl
      rw [decl] at touches
      have oldNumber : old.graphId = e.graphId := first.touched old before e there touches
      rcases number with kept | ⟨unnumbered, _⟩
      · rw [kept, oldNumber]
      · have numbered := first.edgeNumber e there
        rw [← oldNumber, unnumbered] at numbered
        cases numbered
    · intro fits n present id number
      obtain ⟨old, before, _, kept | ⟨_, new, newNumber, bounds⟩⟩ := second.number n present
      · rw [kept] at number
        obtain ⟨low, high⟩ := first.drawn (Nat.le_trans second.groupsDrawn fits) old before id number
        exact ⟨low, Nat.lt_of_lt_of_le high second.groupsDrawn⟩
      · rw [newNumber] at number
        cases number
        exact ⟨Nat.le_trans edges.groupsDrawn (bounds fits).1, (bounds fits).2⟩

end DefectGraph.Graph
