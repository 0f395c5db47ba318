import DefectGraph.Proofs.Connectivity
import Mathlib.Data.List.Induction
import Mathlib.Data.List.Nodup

/-!
# The order of group numbers

Groups get their numbers one after the other: first the connected components, in the order of their first
edges, then the seeds that no edge touches, in the order of the nodes.

## Main Definitions

* `Opens`, `openings` - the places of edges that are the first of their components.
* `Neighborhood.isolatedSeeds` - the seeds that no edge touches.
* `groupLabels` - the labels of the groups, in the order of their first edges.
* `GroupsNumbered` - a neighborhood whose groups are numbered in order, without gaps.

## Main Statements

* `numberEdges_eq` - what numbering edges gives, as one equation.
* `getElem?_groupLabels` - the labels of the groups are those of the edges that open a component.
* `graphIds_numberIsolated` - the numbers of isolated seeds.
* `partition_numbers` - numbering the groups of a neighborhood draws exactly the next numbers, in order.

## Design Notes

The loop over the edges knows labels only. That the first edge with a new label is the first edge of a
component is a fact about the labels (`Labels.of_ofEdges_eq_iff`), used once, in `openings_eq`.
-/

namespace DefectGraph.Graph

open DefectGraph.Source (DeclId)

/-! ### First places -/

/-- The places at which a key stands for the first time. -/
def firstPlaces (keys : List DeclId) : List Nat :=
  (List.range keys.length).filter fun place => ∀ key ∈ keys[place]?, key ∉ keys.take place

/-- A key at the end counts if it is new. -/
theorem eraseDups_concat (keys : List DeclId) (key : DeclId) :
    (keys ++ [key]).eraseDups =
      if key ∈ keys then keys.eraseDups else keys.eraseDups ++ [key] := by
  rw [List.eraseDups_append]
  by_cases known : key ∈ keys
  · simp [known, List.removeAll]
  · simp [known, List.removeAll, List.eraseDups_cons]

/-- A key at the end is at a first place if it is new. -/
theorem firstPlaces_concat (keys : List DeclId) (key : DeclId) :
    firstPlaces (keys ++ [key]) =
      if key ∈ keys then firstPlaces keys else firstPlaces keys ++ [keys.length] := by
  have earlier : (List.range keys.length).filter
      (fun place => ∀ k ∈ (keys ++ [key])[place]?, k ∉ (keys ++ [key]).take place) =
        firstPlaces keys := by
    apply List.filter_congr
    intro place inside
    have before : place < keys.length := List.mem_range.mp inside
    rw [List.getElem?_append_left before, List.take_append_of_le_length (Nat.le_of_lt before)]
  rw [firstPlaces, List.length_append, List.length_singleton, List.range_succ, List.filter_append,
    earlier]
  by_cases known : key ∈ keys
  · simp [known]
  · simp [known]

/-- The keys without repetition are those at the first places. -/
theorem map_firstPlaces (keys : List DeclId) :
    (firstPlaces keys).map (keys[·]?) = keys.eraseDups.map some := by
  induction keys using List.reverseRecOn with
  | nil => rfl
  | append_singleton keys key ih =>
    have inside : (firstPlaces keys).map ((keys ++ [key])[·]?) = (firstPlaces keys).map (keys[·]?) := by
      apply List.map_congr_left
      intro place among
      exact List.getElem?_append_left (List.mem_range.mp (List.mem_filter.mp among).1)
    rw [eraseDups_concat, firstPlaces_concat]
    split
    · rw [inside, ih]
    · rw [List.map_append, inside, ih, List.map_append]
      simp

theorem nodup_eraseDups (keys : List DeclId) : keys.eraseDups.Nodup := by
  induction keys using List.reverseRecOn with
  | nil => exact List.nodup_nil
  | append_singleton keys key ih =>
    rw [eraseDups_concat]
    split
    · exact ih
    · rename_i fresh
      refine List.nodup_append.mpr ⟨ih, List.nodup_singleton key, ?_⟩
      rintro other present _ here rfl
      rw [List.mem_singleton.mp here] at present
      exact fresh (List.mem_eraseDups.mp present)

/-! ### Components and the edges that open them -/

instance (edges : List Edge) : DecidableRel (Joined edges) := fun a b =>
  decidable_of_iff _ (Labels.of_ofEdges_eq_iff edges a b)

/-- The edge at the place is the first one of its component. -/
def Opens (edges : List Edge) (place : Nat) : Prop :=
  ∀ e ∈ edges[place]?, ∀ f ∈ edges.take place, ¬ Joined edges f.source e.source

instance (edges : List Edge) : DecidablePred (Opens edges) := fun _ =>
  inferInstanceAs (Decidable (∀ e ∈ _, _))

/-- The places of the edges that are the first of their components, in order. -/
def openings (edges : List Edge) : List Nat := (List.range edges.length).filter (Opens edges)

/-- The labels of edges. -/
def edgeLabels (labels : Labels) (edges : List Edge) : List DeclId :=
  edges.map fun e => labels.of e.source

/-- The labels of the groups of edges, in the order of their first edges. -/
def groupLabels (labels : Labels) (edges : List Edge) : List DeclId :=
  (edgeLabels labels edges).eraseDups

/-- A component is opened where its label stands for the first time. -/
theorem openings_eq (edges : List Edge) :
    openings edges = firstPlaces (edgeLabels (.ofEdges edges) edges) := by
  unfold openings firstPlaces edgeLabels
  rw [List.length_map]
  apply List.filter_congr
  intro place _
  apply decide_eq_decide.mpr
  unfold Opens
  rw [List.getElem?_map, ← List.map_take]
  cases edges[place]? with
  | none => simp
  | some e => simp only [Option.map_some, Option.mem_some_iff, forall_eq', List.mem_map,
      Labels.of_ofEdges_eq_iff, not_exists, not_and]

/-- The labels at the openings are those of the groups, in order. -/
theorem map_openings (edges : List Edge) :
    (openings edges).map ((edgeLabels (.ofEdges edges) edges)[·]?) =
      (groupLabels (.ofEdges edges) edges).map some := by
  rw [openings_eq, map_firstPlaces, groupLabels]

/-- There are as many openings as groups. -/
@[simp]
theorem length_openings (edges : List Edge) :
    (openings edges).length = (groupLabels (.ofEdges edges) edges).length := by
  simpa using congrArg List.length (map_openings edges)

/-- The labels of the groups are those of the edges that open a component. -/
theorem getElem?_groupLabels {edges : List Edge} {j place : Nat} {e : Edge}
    (opening : (openings edges)[j]? = some place) (found : edges[place]? = some e) :
    (groupLabels (.ofEdges edges) edges)[j]? = some ((Labels.ofEdges edges).of e.source) := by
  have same := congrArg (·[j]?) (map_openings edges)
  simp only [List.getElem?_map, opening, edgeLabels, found, Option.map_some] at same
  obtain ⟨label, there, here⟩ := Option.map_eq_some_iff.mp same.symm
  rw [there, here]

/-- The place of an opening among the openings is that of its label among the labels. -/
theorem idxOf_groupLabels {edges : List Edge} {j place : Nat} {e : Edge}
    (opening : (openings edges)[j]? = some place) (found : edges[place]? = some e) :
    (groupLabels (.ofEdges edges) edges).idxOf ((Labels.ofEdges edges).of e.source) = j := by
  obtain ⟨bound, here⟩ := List.getElem?_eq_some_iff.mp (getElem?_groupLabels opening found)
  rw [← here]
  exact (nodup_eraseDups _).idxOf_getElem j bound

/-- An opening is the place of an edge. -/
theorem mem_edges_of_opening {edges : List Edge} {j place : Nat}
    (opening : (openings edges)[j]? = some place) : ∃ e, edges[place]? = some e := by
  have among := (List.mem_filter.mp (List.mem_of_getElem? opening)).1
  exact ⟨_, List.getElem?_eq_getElem (List.mem_range.mp among)⟩

/-- Every edge is in a component that some edge opens. -/
theorem exists_opening {edges : List Edge} {f : Edge} (present : f ∈ edges) :
    ∃ (j place : Nat) (e : Edge), (openings edges)[j]? = some place ∧ edges[place]? = some e ∧
      Joined edges e.source f.source := by
  have among : (Labels.ofEdges edges).of f.source ∈ groupLabels (.ofEdges edges) edges :=
    List.mem_eraseDups.mpr (List.mem_map_of_mem present)
  obtain ⟨j, there⟩ := List.getElem?_of_mem among
  have inside : j < (openings edges).length := by
    rw [length_openings]
    exact (List.getElem?_eq_some_iff.mp there).choose
  have opening : (openings edges)[j]? = some (openings edges)[j] := List.getElem?_eq_getElem inside
  obtain ⟨e, found⟩ := mem_edges_of_opening opening
  refine ⟨j, _, e, opening, found, ?_⟩
  rw [← Labels.of_ofEdges_eq_iff]
  rw [getElem?_groupLabels opening found] at there
  exact Option.some.inj there

/-! ### Numbers of edges -/

/-- The groups of labels whose numbers were drawn from a count on, one after the other. -/
def drawnFrom (count : Nat) (seen : List DeclId) : Groups :=
  (seen.zipIdx count).map fun x => (x.1, x.2 % idLimit)

/-- Labels are numbered from the count on, by their places. -/
theorem lookup_drawnFrom (count : Nat) (seen : List DeclId) (label : DeclId) :
    (drawnFrom count seen).lookup label =
      if label ∈ seen then some ((count + seen.idxOf label) % idLimit) else none := by
  induction seen generalizing count with
  | nil => rfl
  | cons first rest ih =>
    rw [drawnFrom, List.zipIdx_cons, List.map_cons, ← drawnFrom]
    by_cases here : label = first
    · simp [here]
    · have other : first ≠ label := fun same => here same.symm
      rw [List.lookup_cons, beq_false_of_ne here, ih (count + 1), List.idxOf_cons_ne rest other]
      simp [here, Nat.add_assoc, Nat.add_comm 1]

/-- A new label takes the number that is up. -/
theorem drawnFrom_concat (count : Nat) (seen : List DeclId) (label : DeclId) :
    drawnFrom count (seen ++ [label]) =
      drawnFrom count seen ++ [(label, (count + seen.length) % idLimit)] := by
  simp [drawnFrom, List.zipIdx_append]

/-- An edge brings a new group if its label is new. -/
theorem groupLabels_concat (labels : Labels) (edges : List Edge) (e : Edge) :
    groupLabels labels (edges ++ [e]) =
      if labels.of e.source ∈ groupLabels labels edges then groupLabels labels edges
      else groupLabels labels edges ++ [labels.of e.source] := by
  unfold groupLabels edgeLabels
  rw [List.map_append, List.map_singleton, eraseDups_concat]
  simp only [List.mem_eraseDups]

/-- Labels keep their places as more edges come. -/
theorem idxOf_groupLabels_append (labels : Labels) (edges more : List Edge) {label : DeclId}
    (known : label ∈ groupLabels labels edges) :
    (groupLabels labels (edges ++ more)).idxOf label = (groupLabels labels edges).idxOf label := by
  have split : groupLabels labels edges <+: groupLabels labels (edges ++ more) := by
    unfold groupLabels edgeLabels
    rw [List.map_append, List.eraseDups_append]
    exact List.prefix_append _ _
  exact (split.idxOf_eq_of_mem known).symm

/-- The edge with the number of its label, when numbers are drawn from a count on. -/
def Edge.drawnFrom (labels : Labels) (count : Nat) (seen : List DeclId) (e : Edge) : Edge :=
  { e with graphId := some ((count + seen.idxOf (labels.of e.source)) % idLimit) }

/-- Numbering the edges that are left after some of them: every label gets the number that as many labels
come before. -/
theorem numberEdges_eq (labels : Labels) (count : Nat) (done rest : List Edge) (ids : Ids)
    (drawn : ids.groups = count + (groupLabels labels done).length) :
    numberEdges labels (drawnFrom count (groupLabels labels done)) ids rest =
      (rest.map (Edge.drawnFrom labels count (groupLabels labels (done ++ rest))),
        drawnFrom count (groupLabels labels (done ++ rest)),
        ⟨ids.nodes, count + (groupLabels labels (done ++ rest)).length⟩) := by
  induction rest generalizing done ids with
  | nil =>
    rw [List.append_nil, ← drawn]
    rfl
  | cons e rest ih =>
    have step := groupLabels_concat labels done e
    have all : done ++ e :: rest = (done ++ [e]) ++ rest := by simp
    have place : labels.of e.source ∈ groupLabels labels (done ++ [e]) := by
      rw [step]
      split
      · assumption
      · simp
    have kept := idxOf_groupLabels_append labels (done ++ [e]) rest place
    rw [numberEdges, lookup_drawnFrom]
    by_cases known : labels.of e.source ∈ groupLabels labels done
    · -- The label has its number already, and nothing is drawn.
      rw [if_pos known] at step
      rw [if_pos known, all, List.map_cons, Edge.drawnFrom, kept, step]
      have others := ih (done ++ [e]) ids (by rw [step]; exact drawn)
      rw [step] at others
      simp only [others]
    · rw [if_neg known] at step
      have next : ids.nextGroup.1 = (count + (groupLabels labels done).length) % idLimit := by
        rw [← drawn]
        rfl
      have here : (groupLabels labels (done ++ [e])).idxOf (labels.of e.source) =
          (groupLabels labels done).length := by
        rw [step, List.idxOf_append_of_notMem known, List.idxOf_cons_self, Nat.add_zero]
      have groups : drawnFrom count (groupLabels labels (done ++ [e])) =
          drawnFrom count (groupLabels labels done) ++ [(labels.of e.source, ids.nextGroup.1)] := by
        rw [step, drawnFrom_concat, next]
      have counted : ids.nextGroup.2.groups = count + (groupLabels labels (done ++ [e])).length := by
        rw [step, List.length_append, List.length_singleton, ← Nat.add_assoc, ← drawn]
        rfl
      have others := ih (done ++ [e]) ids.nextGroup.2 counted
      rw [groups] at others
      rw [if_neg known, all, List.map_cons, Edge.drawnFrom, kept, here, ← next]
      simp only [others]
      rfl

/-! ### Numbers of isolated seeds -/

instance (e : Edge) (decl : DeclId) : Decidable (e.Touches decl) :=
  inferInstanceAs (Decidable (_ ∨ _))

instance (h : Neighborhood) (decl : DeclId) : Decidable (h.IsEnd decl) :=
  inferInstanceAs (Decidable (∃ e ∈ _, _))

/-- The seeds that no edge touches, in the order of the nodes. -/
def Neighborhood.isolatedSeeds (h : Neighborhood) : List Node :=
  h.nodes.filter fun n => n.seed = true ∧ ¬ h.IsEnd n.decl

/-- As many groups are counted as there are isolated seeds. -/
theorem numberIsolated_count (ids : Ids) (nodes : List Node) :
    (numberIsolated ids nodes).2.1 = nodes.countP Node.isIsolated := by
  induction nodes generalizing ids with
  | nil => rfl
  | cons n rest ih =>
    by_cases isolated : n.isIsolated = true
    · rw [numberIsolated_of_isolated ids isolated, ih, List.countP_cons_of_pos isolated]
    · rw [numberIsolated_of_not_isolated ids isolated, ih, List.countP_cons_of_neg isolated]

/-- The isolated seeds, told apart by something other than their numbers, get the next numbers in
order. -/
theorem graphIds_numberIsolated (isolated : Node → Bool)
    (blind : ∀ n graphId, isolated { n with graphId } = isolated n) (ids : Ids) (nodes : List Node)
    (agrees : ∀ n ∈ nodes, n.isIsolated = isolated n) :
    ((numberIsolated ids nodes).1.filter isolated).map Node.graphId =
      (List.range' ids.groups (nodes.countP isolated)).map fun i => some (i % idLimit) := by
  induction nodes generalizing ids with
  | nil => rfl
  | cons n rest ih =>
    obtain ⟨here, others⟩ := List.forall_mem_cons.mp agrees
    by_cases alone : isolated n = true
    · rw [numberIsolated_of_isolated ids (here.trans alone), List.countP_cons_of_pos alone,
        List.filter_cons_of_pos ((blind n _).trans alone), List.map_cons, ih ids.nextGroup.2 others,
        List.range'_succ]
      rfl
    · rw [numberIsolated_of_not_isolated ids (by rw [here]; exact alone),
        List.countP_cons_of_neg alone, List.filter_cons_of_neg alone, ih ids others]

/-! ### Neighborhoods -/

/-- What numbering all edges gives. -/
theorem numberEdges_nil (labels : Labels) (ids : Ids) (edges : List Edge) :
    numberEdges labels [] ids edges =
      (edges.map (Edge.drawnFrom labels ids.groups (groupLabels labels edges)),
        drawnFrom ids.groups (groupLabels labels edges),
        ⟨ids.nodes, ids.groups + (groupLabels labels edges).length⟩) :=
  numberEdges_eq labels ids.groups [] edges ids rfl

/-- A component that some edge opens holds an edge at each of its declarations. -/
theorem Joined.exists_touches {edges : List Edge} {e : Edge} (present : e ∈ edges) {decl : DeclId}
    (path : Joined edges e.source decl) :
    ∃ f ∈ edges, f.Touches decl ∧ Joined edges e.source f.source := by
  rcases Relation.ReflTransGen.cases_tail path with rfl | ⟨before, path', f, among, ends⟩
  · exact ⟨e, present, Or.inl rfl, .refl edges e.source⟩
  · rcases ends with ⟨rfl, rfl⟩ | ⟨rfl, rfl⟩
    · exact ⟨f, among, Or.inr rfl, path'⟩
    · exact ⟨f, among, Or.inl rfl, path⟩

/-- The second neighborhood is the first with numbers from `count` on: those of the components in the order
of their first edges, then, if wanted, those of the isolated seeds in the order of the nodes. -/
structure GroupsNumbered (h : Neighborhood) (keepIsolated : Bool) (count : Nat)
    (numbered : Neighborhood) (groups : Nat) : Prop where
  nodes : numbered.nodes.map Node.withoutGroup = h.nodes.map Node.withoutGroup
  ends : numbered.ends = h.ends
  /-- Every edge is in a component. -/
  covered : ∀ f ∈ numbered.edges, ∃ (j place : Nat) (e : Edge), (openings h.edges)[j]? = some place ∧
    h.edges[place]? = some e ∧ Joined h.edges e.source f.source
  edgeNumber : ∀ (j place : Nat) (e : Edge), (openings h.edges)[j]? = some place →
    h.edges[place]? = some e → ∀ f ∈ numbered.edges, Joined h.edges e.source f.source →
      f.graphId = some (count + j)
  nodeNumber : ∀ (j place : Nat) (e : Edge), (openings h.edges)[j]? = some place →
    h.edges[place]? = some e → ∀ n ∈ numbered.nodes, Joined h.edges e.source n.decl →
      n.graphId = some (count + j)
  seeds : numbered.isolatedSeeds.map Node.withoutGroup = h.isolatedSeeds.map Node.withoutGroup
  seedNumber : keepIsolated = true → ∀ (i : Nat) (n : Node), numbered.isolatedSeeds[i]? = some n →
    n.graphId = some (count + (openings h.edges).length + i)
  ungrouped : ∀ n ∈ numbered.nodes, ¬ h.IsEnd n.decl → ¬ (keepIsolated = true ∧ n.seed = true) →
    n.graphId = none
  counted : groups = (openings h.edges).length + if keepIsolated then h.isolatedSeeds.length else 0
  /-- The numbers in use are exactly the next ones. -/
  drawn : ∀ id, (∃ n ∈ numbered.nodes, n.graphId = some id) ↔ count ≤ id ∧ id < count + groups

/-- What is an end of an edge depends on the ends of edges only. -/
theorem isEnd_iff_of_ends {g h : Neighborhood} (ends : g.ends = h.ends) (decl : DeclId) :
    g.IsEnd decl ↔ h.IsEnd decl := by
  rw [Neighborhood.IsEnd, Neighborhood.exists_touches_iff, ends, ← Neighborhood.exists_touches_iff,
    Neighborhood.IsEnd]

/-- Edges with the same ends stand at the same places. -/
theorem exists_edge_of_ends {g h : Neighborhood} (ends : g.ends = h.ends) {f : Edge}
    (present : f ∈ h.edges) :
    ∃ e ∈ g.edges, e.source = f.source ∧ e.destination = f.destination := by
  have kept : f.ends ∈ g.ends := by
    rw [ends]
    exact List.mem_map_of_mem present
  obtain ⟨e, there, same⟩ := List.mem_map.mp kept
  exact ⟨e, there, congrArg Prod.fst same, congrArg Prod.snd same⟩

/-- Neighborhoods with the same nodes and ends have the same isolated seeds, but for the numbers. -/
theorem map_isolatedSeeds {h numbered : Neighborhood}
    (nodes : numbered.nodes.map Node.withoutGroup = h.nodes.map Node.withoutGroup)
    (ends : numbered.ends = h.ends) :
    numbered.isolatedSeeds.map Node.withoutGroup = h.isolatedSeeds.map Node.withoutGroup := by
  have same : ∀ (g : Neighborhood), g.ends = h.ends → g.isolatedSeeds.map Node.withoutGroup =
      (g.nodes.map Node.withoutGroup).filter fun n => n.seed = true ∧ ¬ h.IsEnd n.decl := by
    intro g ends
    rw [List.filter_map, Neighborhood.isolatedSeeds]
    congr 1
    apply List.filter_congr
    intro n _
    exact decide_eq_decide.mpr (and_congr Iff.rfl (not_congr (isEnd_iff_of_ends ends n.decl)))
  rw [same numbered ends, same h rfl, nodes]

/-- Numbering edges gives every edge of a component the number of the component's place among the
others. -/
theorem graphId_of_opening {edges : List Edge} {ids : Ids} {j place : Nat} {e f : Edge}
    (fits : ids.groups + (openings edges).length ≤ idLimit)
    (opening : (openings edges)[j]? = some place) (found : edges[place]? = some e)
    (present : f ∈ (numberEdges (.ofEdges edges) [] ids edges).1)
    (path : Joined edges e.source f.source) : f.graphId = some (ids.groups + j) := by
  rw [numberEdges_nil] at present
  obtain ⟨old, _, rfl⟩ := List.mem_map.mp present
  have label : (Labels.ofEdges edges).of old.source = (Labels.ofEdges edges).of e.source :=
    ((Labels.of_ofEdges_eq_iff edges e.source old.source).mpr path).symm
  have inside : j < (openings edges).length := (List.getElem?_eq_some_iff.mp opening).choose
  rw [Edge.drawnFrom, label, idxOf_groupLabels opening found, Nat.mod_eq_of_lt (by omega)]

/-- The nodes of a neighborhood once its edges are numbered. -/
def Neighborhood.touchedNodes (h : Neighborhood) (ids : Ids) : List Node :=
  h.nodes.map (Node.numbered (numberEdges (.ofEdges h.edges) [] ids h.edges).1)

/-- Without isolated nodes, a partition numbers the edges and the nodes that they touch. -/
theorem partition_false (h : Neighborhood) (ids : Ids) :
    h.partition false ids =
      (⟨h.touchedNodes ids, (numberEdges (.ofEdges h.edges) [] ids h.edges).1⟩,
        (numberEdges (.ofEdges h.edges) [] ids h.edges).2.1.length,
        (numberEdges (.ofEdges h.edges) [] ids h.edges).2.2) :=
  rfl

/-- With isolated nodes, these are numbered behind the edges. -/
theorem partition_true (h : Neighborhood) (ids : Ids) :
    h.partition true ids =
      (⟨(numberIsolated (numberEdges (.ofEdges h.edges) [] ids h.edges).2.2 (h.touchedNodes ids)).1,
          (numberEdges (.ofEdges h.edges) [] ids h.edges).1⟩,
        (numberEdges (.ofEdges h.edges) [] ids h.edges).2.1.length +
          (numberIsolated (numberEdges (.ofEdges h.edges) [] ids h.edges).2.2
            (h.touchedNodes ids)).2.1,
        (numberIsolated (numberEdges (.ofEdges h.edges) [] ids h.edges).2.2
          (h.touchedNodes ids)).2.2) :=
  rfl

/-- One number is drawn for each component. -/
theorem numberEdges_ids (edges : List Edge) (ids : Ids) :
    (numberEdges (.ofEdges edges) [] ids edges).2.2 =
      ⟨ids.nodes, ids.groups + (openings edges).length⟩ := by
  rw [numberEdges_nil, length_openings]

/-- The nodes that are left without a group are the isolated seeds. -/
theorem countP_touchedNodes (h : Neighborhood) (ids : Ids) :
    (h.touchedNodes ids).countP (fun n => n.seed = true ∧ ¬ h.IsEnd n.decl) =
      h.isolatedSeeds.length := by
  rw [Neighborhood.touchedNodes, List.countP_map, Neighborhood.isolatedSeeds,
    ← List.countP_eq_length_filter]
  rfl

section

variable {h : Neighborhood} (ids : Ids) (ungrouped : ∀ n ∈ h.nodes, n.graphId = none)
include ungrouped

/-- Once the edges are numbered, the seeds without a number are those that no edge touches. -/
theorem isIsolated_eq {n : Node} (present : n ∈ h.touchedNodes ids) :
    n.isIsolated = decide (n.seed = true ∧ ¬ h.IsEnd n.decl) := by
  have first := partitioned_of_numberEdges h ids ungrouped
  have touched : n.graphId.isSome = true ↔ h.IsEnd n.decl :=
    (first.isSome_iff present).trans (isEnd_iff_of_ends first.ends n.decl)
  rw [Bool.eq_iff_iff, decide_eq_true_iff, ← touched, Node.isIsolated, Bool.and_eq_true, and_comm]
  simp

/-- What is counted and drawn when the groups of a neighborhood are numbered. -/
theorem partition_counted (keepIsolated : Bool) :
    (h.partition keepIsolated ids).2.1 =
        (openings h.edges).length + (if keepIsolated then h.isolatedSeeds.length else 0) ∧
      (h.partition keepIsolated ids).2.2 =
        ⟨ids.nodes, ids.groups + (h.partition keepIsolated ids).2.1⟩ := by
  have groups : (numberEdges (.ofEdges h.edges) [] ids h.edges).2.1.length =
      (openings h.edges).length := by
    rw [numberEdges_nil, length_openings]
    simp [drawnFrom]
  cases keepIsolated with
  | false =>
    rw [partition_false, groups]
    exact ⟨rfl, numberEdges_ids h.edges ids⟩
  | true =>
    have isolated : (h.touchedNodes ids).countP Node.isIsolated = h.isolatedSeeds.length := by
      rw [List.countP_congr fun n present => by rw [isIsolated_eq ids ungrouped present],
        countP_touchedNodes]
    rw [partition_true, groups, numberIsolated_count, numberIsolated_ids, numberEdges_ids, isolated,
      ← Nat.add_assoc]
    exact ⟨rfl, rfl⟩

/-- The isolated seeds get the numbers after those of the components, in order. -/
theorem graphIds_isolatedSeeds :
    (h.partition true ids).1.isolatedSeeds.map Node.graphId =
      (List.range' (ids.groups + (openings h.edges).length) h.isolatedSeeds.length).map
        fun i => some (i % idLimit) := by
  have ends := (partition_spec h true ids ungrouped).ends
  have same : (h.partition true ids).1.isolatedSeeds =
      (h.partition true ids).1.nodes.filter fun n => n.seed = true ∧ ¬ h.IsEnd n.decl := by
    apply List.filter_congr
    intro n _
    exact decide_eq_decide.mpr (and_congr Iff.rfl (not_congr (isEnd_iff_of_ends ends n.decl)))
  have numbers := graphIds_numberIsolated (fun n => n.seed = true ∧ ¬ h.IsEnd n.decl)
    (fun _ _ => rfl) (numberEdges (.ofEdges h.edges) [] ids h.edges).2.2 (h.touchedNodes ids)
    fun n present => isIsolated_eq ids ungrouped present
  rw [same, partition_true, numbers, countP_touchedNodes, numberEdges_ids]

/-- A node that no edge touches is in a group only if it is a seed and isolated seeds are kept. -/
theorem graphId_eq_none (keepIsolated : Bool) {n : Node}
    (present : n ∈ (h.partition keepIsolated ids).1.nodes) (alone : ¬ h.IsEnd n.decl)
    (left : ¬ (keepIsolated = true ∧ n.seed = true)) : n.graphId = none := by
  have first := partitioned_of_numberEdges h ids ungrouped
  have untouched : ∀ old ∈ h.touchedNodes ids, ¬ h.IsEnd old.decl → old.graphId = none := by
    intro old among alone
    rw [← Option.not_isSome_iff_eq_none, first.isSome_iff among]
    exact fun touched => alone ((isEnd_iff_of_ends first.ends old.decl).mp touched)
  cases keepIsolated with
  | false => exact untouched n present alone
  | true =>
    obtain ⟨place, found⟩ := List.getElem?_of_mem present
    rw [partition_true, numberIsolated_getElem?, Option.map_eq_some_iff] at found
    obtain ⟨old, before, rfl⟩ := found
    by_cases isolated : old.isIsolated = true
    · rw [if_pos isolated] at left
      exact absurd ⟨rfl, (Bool.and_eq_true_iff.mp isolated).2⟩ left
    · rw [if_neg isolated] at alone ⊢
      exact untouched old (List.mem_of_getElem? before) alone

variable {keepIsolated : Bool} (fits : ids.groups + (h.partition keepIsolated ids).2.1 ≤ idLimit)
include fits

/-- The edges of a component have the number of the component's place among the others. -/
theorem edge_graphId {j place : Nat} {e f : Edge} (opening : (openings h.edges)[j]? = some place)
    (found : h.edges[place]? = some e) (present : f ∈ (h.partition keepIsolated ids).1.edges)
    (path : Joined h.edges e.source f.source) : f.graphId = some (ids.groups + j) := by
  have counted := (partition_counted ids ungrouped keepIsolated).1
  rw [edges_partition] at present
  exact graphId_of_opening (by omega) opening found present path

/-- So have its nodes. -/
theorem node_graphId {j place : Nat} {e : Edge} {n : Node}
    (opening : (openings h.edges)[j]? = some place) (found : h.edges[place]? = some e)
    (present : n ∈ (h.partition keepIsolated ids).1.nodes) (path : Joined h.edges e.source n.decl) :
    n.graphId = some (ids.groups + j) := by
  have partitioned := partition_spec h keepIsolated ids ungrouped
  obtain ⟨f, among, touches, path'⟩ := path.exists_touches (List.mem_of_getElem? found)
  obtain ⟨g, there, source, destination⟩ := exists_edge_of_ends partitioned.ends among
  rw [partitioned.touched n present g there (by rwa [Edge.Touches, source, destination])]
  exact edge_graphId ids ungrouped fits opening found there (by rwa [source])

/-- Isolated seeds are numbered behind the groups of the edges, in order. -/
theorem seed_graphId (kept : keepIsolated = true) {i : Nat} {n : Node}
    (found : (h.partition keepIsolated ids).1.isolatedSeeds[i]? = some n) :
    n.graphId = some (ids.groups + (openings h.edges).length + i) := by
  have counted := (partition_counted ids ungrouped keepIsolated).1
  subst kept
  have numbers := graphIds_isolatedSeeds ids ungrouped
  have inside : i < h.isolatedSeeds.length := by
    have same := congrArg List.length numbers
    rw [List.length_map, List.length_map, List.length_range'] at same
    rw [← same]
    exact (List.getElem?_eq_some_iff.mp found).choose
  have number := congrArg (·[i]?) numbers
  simp only [List.getElem?_map, found, List.getElem?_range' inside, Option.map_some, Nat.one_mul,
    Option.some.injEq] at number
  rw [if_pos rfl] at counted
  rw [number, Nat.mod_eq_of_lt (by omega)]

/-- The numbers in use are exactly the next ones. -/
theorem exists_graphId_iff (sources : ∀ e ∈ h.edges, e.source ∈ h.keys) (id : Nat) :
    (∃ n ∈ (h.partition keepIsolated ids).1.nodes, n.graphId = some id) ↔
      ids.groups ≤ id ∧ id < ids.groups + (h.partition keepIsolated ids).2.1 := by
  have partitioned := partition_spec h keepIsolated ids ungrouped
  obtain ⟨counted, drawn⟩ := partition_counted ids ungrouped keepIsolated
  constructor
  · rintro ⟨n, present, number⟩
    have bounds := partitioned.drawn (by rw [drawn]; exact fits) n present id number
    rwa [drawn] at bounds
  · rintro ⟨low, high⟩
    by_cases component : id < ids.groups + (openings h.edges).length
    · -- The number is that of a component, and the source of its first edge has a node.
      have inside : id - ids.groups < (openings h.edges).length := by omega
      have opening := List.getElem?_eq_getElem inside
      obtain ⟨e, found⟩ := mem_edges_of_opening opening
      have key : e.source ∈ (h.partition keepIsolated ids).1.keys := by
        rw [partitioned.keys]
        exact sources e (List.mem_of_getElem? found)
      obtain ⟨n, present, here⟩ := List.mem_map.mp key
      refine ⟨n, present, ?_⟩
      rw [node_graphId ids ungrouped fits opening found present (here ▸ .refl _ _),
        Nat.add_sub_cancel' low]
    · -- The number is that of an isolated seed.
      have kept : keepIsolated = true := by
        by_contra left
        rw [if_neg left] at counted
        omega
      have seeds := map_isolatedSeeds partitioned.nodes partitioned.ends
      have inside : id - (ids.groups + (openings h.edges).length) <
          (h.partition keepIsolated ids).1.isolatedSeeds.length := by
        have same := congrArg List.length seeds
        rw [List.length_map, List.length_map] at same
        rw [if_pos kept] at counted
        omega
      have found := List.getElem?_eq_getElem inside
      refine ⟨_, (List.mem_filter.mp (List.mem_of_getElem? found)).1, ?_⟩
      rw [seed_graphId ids ungrouped fits kept found, Nat.add_sub_cancel' (by omega)]

end

/-- Numbering the groups of a neighborhood draws exactly the next numbers: those of the components in the
order of their first edges, and after them those of the isolated seeds in the order of the nodes. -/
theorem partition_numbers (h : Neighborhood) (keepIsolated : Bool) (ids : Ids)
    (endpoints : ∀ e ∈ h.edges, e.source ∈ h.keys ∧ e.destination ∈ h.keys)
    (ungrouped : ∀ n ∈ h.nodes, n.graphId = none)
    (fits : ids.groups + (h.partition keepIsolated ids).2.1 ≤ idLimit) :
    GroupsNumbered h keepIsolated ids.groups (h.partition keepIsolated ids).1
        (h.partition keepIsolated ids).2.1 ∧
      (h.partition keepIsolated ids).2.2 =
        ⟨ids.nodes, ids.groups + (h.partition keepIsolated ids).2.1⟩ := by
  have partitioned := partition_spec h keepIsolated ids ungrouped
  obtain ⟨counted, drawn⟩ := partition_counted ids ungrouped keepIsolated
  refine ⟨?_, drawn⟩
  exact {
    nodes := partitioned.nodes
    ends := partitioned.ends
    covered := by
      intro f present
      obtain ⟨g, there, source, _⟩ := exists_edge_of_ends partitioned.ends.symm present
      rw [← source]
      exact exists_opening there
    edgeNumber := fun _ _ _ opening found _ => edge_graphId ids ungrouped fits opening found
    nodeNumber := fun _ _ _ opening found _ => node_graphId ids ungrouped fits opening found
    seeds := map_isolatedSeeds partitioned.nodes partitioned.ends
    seedNumber := fun kept _ _ => seed_graphId ids ungrouped fits kept
    ungrouped := fun _ => graphId_eq_none ids ungrouped keepIsolated
    counted
    drawn := exists_graphId_iff ids ungrouped fits fun e present => (endpoints e present).1 }

/-- Two components whose edges alternate, isolated seeds around them, and an isolated node that is no
seed. -/
def alternating : Neighborhood :=
  ⟨[plainNode 7, plainNode 3, plainNode 1, plainNode 0, plainNode 2, { plainNode 8 with seed := false },
      plainNode 5, plainNode 9],
    [⟨3, 1, none⟩, ⟨0, 5, none⟩, ⟨2, 1, none⟩, ⟨5, 0, none⟩]⟩

/-- The component of the edge that comes first has the first number, although other nodes come before its
nodes, and the isolated seeds have the last ones. -/
theorem partition_numbers_of_alternating :
    openings alternating.edges = [0, 1] ∧
    (alternating.partition true ⟨8, 4⟩).1.nodes.map Node.graphId =
      [some 6, some 4, some 4, some 5, some 4, none, some 5, some 7] ∧
    GroupsNumbered alternating true 4 (alternating.partition true ⟨8, 4⟩).1
        (alternating.partition true ⟨8, 4⟩).2.1 ∧
      (alternating.partition true ⟨8, 4⟩).2.2 = ⟨8, 4 + (alternating.partition true ⟨8, 4⟩).2.1⟩ :=
  ⟨by decide, by decide,
    partition_numbers alternating true ⟨8, 4⟩ (by decide) (by decide) (by decide)⟩

end DefectGraph.Graph
