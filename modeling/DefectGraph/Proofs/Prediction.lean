import DefectGraph.Proofs.BodyReferences
import DefectGraph.Proofs.Tables

/-!
# The rows of a prediction

A prediction starts from every method of a file. Which declarations get a row depends on what is reached
from there, on the constructors that break off, on the marker, and on the edges that are left.

## Main Definitions

* `Marked` - a signature holds the marker.
* `Neighborhood.Survives` - a declaration has a node that is neither invalid nor marked.
* `Predicted` - what a node of a prediction says of its declaration.
* `Run.PredictionRows` - which declarations of a file have a row.

## Main Statements

* `mem_keys_filter_iff`, `mem_ends_filter_iff` - what is left of a neighborhood after filtering.
* `isolatedKept` - who has a group when isolated seeds are kept, and who is alone in it.
* `Run.prediction_covers_methods` - the rows that a prediction writes.

## Design Notes

Methods are never invalid, because only constructors have explicit constructor calls, so of the two
reasons to hide a node only the marker applies to them.
-/

namespace DefectGraph

open DefectGraph.Source

/-! ### Marked signatures -/

/-- A text occurs in another one when it is a part of it. -/
@[simp]
theorem Text.occursIn_iff (part text : List Char) : occursIn part text = true ↔ part <:+: text := by
  induction text with
  | nil => rw [occursIn, List.isEmpty_iff, List.infix_nil]
  | cons c text ih =>
    rw [occursIn, Bool.or_eq_true, ih, List.isPrefixOf_iff_prefix, List.infix_cons_iff]

namespace Graph

/-- The signature holds the marker; the empty marker marks nothing. -/
def Marked (marker signature : String) : Prop :=
  marker ≠ "" ∧ marker.toList <:+: signature.toList

namespace Neighborhood

/-- An empty marker marks nothing. -/
theorem isMarked_iff (marker : String) (n : Node) :
    isMarked marker n = true ↔ Marked marker n.signature := by
  rw [isMarked, Bool.and_eq_true, Text.occursIn_iff, Bool.not_eq_true', Marked, ← Bool.not_eq_true,
    String.isEmpty_iff]

/-- The declaration has a node that is neither invalid nor marked. -/
def Survives (h : Neighborhood) (marker : String) (decl : DeclId) : Prop :=
  ∃ n ∈ h.nodes, n.decl = decl ∧ n.valid = true ∧ ¬ Marked marker n.signature

/-- Nodes are hidden when they are invalid or marked. -/
@[simp]
theorem mem_hidden_iff (h : Neighborhood) (marker : String) (decl : DeclId) :
    decl ∈ h.hidden marker ↔
      ∃ n ∈ h.nodes, n.decl = decl ∧ (n.valid = false ∨ Marked marker n.signature) := by
  simp only [hidden, List.mem_map, List.mem_filter, Bool.or_eq_true, Bool.not_eq_true', isMarked_iff]
  constructor
  · rintro ⟨n, ⟨present, gone⟩, here⟩
    exact ⟨n, present, here, gone⟩
  · rintro ⟨n, present, here, gone⟩
    exact ⟨n, ⟨present, gone⟩, here⟩

/-- Filtering keeps the nodes of the declarations that survive. -/
theorem mem_keys_filter_iff {h : Neighborhood} (wellFormed : h.WellFormed) (marker : String)
    (decl : DeclId) : decl ∈ (h.filter marker).keys ↔ h.Survives marker decl := by
  rw [mem_keys_filter, mem_hidden_iff]
  constructor
  · rintro ⟨present, shown⟩
    obtain ⟨n, node, rfl⟩ := List.mem_map.mp present
    refine ⟨n, node, rfl, ?_, fun marked => shown ⟨n, node, rfl, Or.inr marked⟩⟩
    rw [← Bool.not_eq_false]
    exact fun invalid => shown ⟨n, node, rfl, Or.inl invalid⟩
  · rintro ⟨n, node, rfl, valid, unmarked⟩
    refine ⟨List.mem_map_of_mem node, ?_⟩
    rintro ⟨m, other, here, gone⟩
    -- No declaration has two nodes, so the hidden one is this one.
    have same : m = n := List.inj_on_of_nodup_map wellFormed.keysNodup other node here
    subst same
    rcases gone with invalid | marked
    · rw [valid] at invalid
      cases invalid
    · exact unmarked marked

/-- Filtering keeps the edges between declarations that survive. -/
theorem mem_ends_filter_iff {h : Neighborhood} (wellFormed : h.WellFormed) (marker : String)
    (x : DeclId × DeclId) :
    x ∈ (h.filter marker).ends ↔ x ∈ h.ends ∧ h.Survives marker x.1 ∧ h.Survives marker x.2 := by
  rw [← mem_keys_filter_iff wellFormed, ← mem_keys_filter_iff wellFormed]
  constructor
  · intro kept
    obtain ⟨e, among, rfl⟩ := List.mem_map.mp kept
    exact ⟨List.mem_map_of_mem (List.mem_filter.mp among).1, wellFormed.mem_ends_filter marker kept⟩
  · rintro ⟨present, source, destination⟩
    obtain ⟨e, among, rfl⟩ := List.mem_map.mp present
    refine List.mem_map_of_mem (List.mem_filter.mpr ⟨among, ?_⟩)
    have shown := ((mem_keys_filter h marker e.source).mp source).2
    have shownToo := ((mem_keys_filter h marker e.destination).mp destination).2
    simp [shown, shownToo]

end Neighborhood

/-! ### The nodes of a prediction -/

/-- What a node of a prediction says of its declaration. -/
structure Predicted (tree : Tree) (seeds : List DeclId) (n : Node) : Prop where
  declared : ∃ d, tree.decl? n.decl = some d ∧ d.kind ≠ .enumConstant ∧ n.signature = d.signature
  seed : n.seed = true ↔ n.decl ∈ seeds
  /-- Only a declaration that breaks off is invalid. -/
  valid : n.valid = false → BreaksOff tree n.decl

theorem signature_of_decl? {tree : Tree} {id : DeclId} {d : Declaration}
    (found : tree.decl? id = some d) : tree.signature id = d.signature := by
  rw [Tree.signature, found]
  rfl

/-- Extraction from predicted seeds gives predicted nodes, with one for every seed. -/
theorem predicted_of_extract? {tree : Tree} {seeds : List Node} {ids after : Ids}
    {hood : Neighborhood} {events : List Event}
    (predicted : ∀ seed ∈ seeds, Predicted tree (seeds.map Node.decl) seed)
    (extracted : extract? Run.predictionTemplate tree seeds ids = some (hood, events, after)) :
    (∀ decl ∈ seeds.map Node.decl, decl ∈ hood.keys) ∧
      ∀ n ∈ hood.nodes, Predicted tree (seeds.map Node.decl) n := by
  obtain ⟨⟨merged, mergeEvents⟩, merge, _⟩ := Option.bind_eq_some_iff.mp extracted
  rw [extract?_eq_some Run.predictionTemplate tree ids merge] at extracted
  cases extracted
  have seeded := Seeded.ofSeeds merge
  have nodes : ∀ decl ∈ seeds.map Node.decl, decl ∈ merged.keys := fun decl => (seeded.keys decl).mpr
  have invariant : ExploreInvariant Run.predictionTemplate tree fun p =>
      (∀ decl ∈ seeds.map Node.decl, decl ∈ p.hood.keys) ∧
        ∀ n ∈ p.hood.nodes, Predicted tree (seeds.map Node.decl) n := by
    apply ExploreInvariant.nodesApart
    · rintro decl id other ⟨source, points⟩
      obtain ⟨d, found, callable⟩ := points.callable
      refine ⟨⟨d, found, callable, signature_of_decl? found⟩, ?_, fun invalid => by cases invalid⟩
      exact ⟨fun seed => absurd seed Bool.false_ne_true, fun seed => absurd seed other⟩
    · intro n explicitSuper good
      refine ⟨good.declared, good.seed, fun invalid => ?_⟩
      rcases Bool.and_eq_false_iff.mp invalid with before | now
      · exact good.valid before
      · exact (scan_invalid_iff tree n.decl).mp (by simpa using now)
  refine invariant.exploreEach (.start merged ids mergeEvents) _ ⟨nodes, ?_⟩ nodes
  intro n present
  obtain ⟨seed, among, same⟩ := seeded.exists_seed present
  have good := predicted seed among
  rw [same]
  exact ⟨good.declared, good.seed, good.valid⟩

/-! ### Groups of isolated seeds -/

/-- An isolated seed counts for every place after its own. -/
theorem countP_take_lt {nodes : List Node} {place later : Nat} {n : Node}
    (found : nodes[place]? = some n) (isolated : n.isIsolated = true) (before : place < later) :
    (nodes.take place).countP Node.isIsolated < (nodes.take later).countP Node.isIsolated := by
  have counted : (nodes.take (place + 1)).countP Node.isIsolated =
      (nodes.take place).countP Node.isIsolated + 1 := by
    rw [List.take_add_one, found, List.countP_append]
    simp [isolated]
  have part : (nodes.take (place + 1)).Sublist (nodes.take later) :=
    (List.take_prefix_take_left before).sublist
  have fewer : _ ≤ (nodes.take later).countP Node.isIsolated := part.countP_le
  omega

/-- Two isolated seeds that as many others come before are the same. -/
theorem place_eq_of_countP_eq {nodes : List Node} {place other : Nat} {n m : Node}
    (found : nodes[place]? = some n) (isolated : n.isIsolated = true)
    (foundToo : nodes[other]? = some m) (isolatedToo : m.isIsolated = true)
    (same : (nodes.take place).countP Node.isIsolated = (nodes.take other).countP Node.isIsolated) :
    place = other := by
  rcases Nat.lt_trichotomy place other with before | here | after
  · exact absurd same (Nat.ne_of_lt (countP_take_lt found isolated before))
  · exact here
  · exact absurd same (Nat.ne_of_gt (countP_take_lt foundToo isolatedToo after))

/-- Who has a group when isolated seeds are kept, and who is alone in it. -/
structure IsolatedKept (numbered : Neighborhood) (idsAfter : Ids) : Prop where
  grouped : ∀ n ∈ numbered.nodes,
    n.graphId.isSome = true ↔ (∃ e ∈ numbered.edges, e.Touches n.decl) ∨ n.seed = true
  /-- A node that no edge touches shares its group with no other. -/
  alone : idsAfter.groups ≤ idLimit → ∀ n ∈ numbered.nodes,
    (∀ e ∈ numbered.edges, ¬ e.Touches n.decl) → n.graphId.isSome = true →
      ∀ m ∈ numbered.nodes, m.graphId = n.graphId → m = n

/-- Numbering isolated seeds after the edges and what they touch. -/
theorem Partitioned.isolatedKept {h : Neighborhood} {ids between : Ids} {nodes : List Node}
    {edges : List Edge} (first : Partitioned h false ids ⟨nodes, edges⟩ between) :
    IsolatedKept ⟨(numberIsolated between nodes).1, edges⟩ (numberIsolated between nodes).2.2 := by
  have touchedIff : ∀ n ∈ nodes, n.graphId.isSome = true ↔ ∃ e ∈ edges, e.Touches n.decl :=
    fun n present => first.isSome_iff present
  refine ⟨?_, ?_⟩
  · intro n present
    obtain ⟨place, found⟩ := List.getElem?_of_mem present
    rw [numberIsolated_getElem?, Option.map_eq_some_iff] at found
    obtain ⟨old, before, rfl⟩ := found
    have touched := touchedIff old (List.mem_of_getElem? before)
    by_cases isolated : old.isIsolated = true
    · have seed : old.seed = true := (Bool.and_eq_true_iff.mp isolated).2
      simp [isolated, seed]
    · rw [if_neg isolated, ← touched]
      refine ⟨Or.inl, ?_⟩
      rintro (number | seed)
      · exact number
      · rw [Node.isIsolated, seed, Bool.and_true, Option.isNone_iff_eq_none] at isolated
        exact Option.isSome_iff_ne_none.mpr isolated
  · intro fits n present untouched number m other same
    rw [numberIsolated_groups] at fits
    obtain ⟨place, found⟩ := List.getElem?_of_mem present
    obtain ⟨place', found'⟩ := List.getElem?_of_mem other
    rw [numberIsolated_getElem?] at found found'
    obtain ⟨old, before, rfl⟩ := Option.map_eq_some_iff.mp found
    obtain ⟨old', before', rfl⟩ := Option.map_eq_some_iff.mp found'
    have inside : ∀ {place : Nat} {n : Node}, nodes[place]? = some n → n.isIsolated = true →
        between.groups + (nodes.take place).countP Node.isIsolated < idLimit := by
      intro place n found isolated
      have bound := (List.getElem?_eq_some_iff.mp found).choose
      have fewer := countP_take_lt found isolated bound
      rw [List.take_length] at fewer
      omega
    have isolated : old.isIsolated = true := by
      by_contra other
      rw [if_neg other] at number untouched
      obtain ⟨e, there, touches⟩ := (touchedIff old (List.mem_of_getElem? before)).mp number
      exact untouched e there touches
    have drawn := inside before isolated
    rw [if_pos isolated] at same
    simp only [Nat.mod_eq_of_lt drawn] at same
    by_cases isolated' : old'.isIsolated = true
    · -- Both numbers were drawn here, each after as many others as its place tells.
      rw [if_pos isolated'] at same
      simp only [Nat.mod_eq_of_lt (inside before' isolated'), Option.some.injEq,
        Nat.add_left_cancel_iff] at same
      have here := place_eq_of_countP_eq before' isolated' before isolated same
      subst here
      rw [before] at before'
      cases before'
      rfl
    · -- The other number is that of an edge, which was drawn earlier.
      rw [if_neg isolated'] at same
      have early := first.drawn (by omega) old' (List.mem_of_getElem? before') _ same
      omega

/-- A partition that keeps isolated nodes gives them groups of their own. -/
theorem isolatedKept (h : Neighborhood) (ids : Ids) (ungrouped : ∀ n ∈ h.nodes, n.graphId = none) :
    IsolatedKept (h.partition true ids).1 (h.partition true ids).2.2 :=
  (partitioned_of_numberEdges h ids ungrouped).isolatedKept

/-! ### The nodes that are shown -/

/-- The declaration is an end of an edge whose two ends survive. -/
def Neighborhood.Linked (h : Neighborhood) (marker : String) (decl : DeclId) : Prop :=
  ∃ x ∈ h.ends, (x.1 = decl ∨ x.2 = decl) ∧ h.Survives marker x.1 ∧ h.Survives marker x.2

/-- After filtering, the declarations that edges touch are those that were linked. -/
theorem Partitioned.touched_iff_linked {hood numbered : Neighborhood} {marker : String}
    {keepIsolated : Bool} {ids idsAfter : Ids} (wellFormed : hood.WellFormed)
    (partitioned : Partitioned (hood.filter marker) keepIsolated ids numbered idsAfter)
    (decl : DeclId) : (∃ e ∈ numbered.edges, e.Touches decl) ↔ hood.Linked marker decl := by
  rw [Neighborhood.exists_touches_iff, partitioned.ends]
  constructor
  · rintro ⟨x, kept, touches⟩
    obtain ⟨present, survive⟩ := (Neighborhood.mem_ends_filter_iff wellFormed marker x).mp kept
    exact ⟨x, present, touches, survive⟩
  · rintro ⟨x, present, touches, survive⟩
    exact ⟨x, (Neighborhood.mem_ends_filter_iff wellFormed marker x).mpr ⟨present, survive⟩, touches⟩

theorem Node.eq_of_withoutGroup {a b : Node} (same : a.withoutGroup = b.withoutGroup) :
    b = { a with graphId := b.graphId } := by
  cases a
  cases b
  simp only [Node.withoutGroup, Node.mk.injEq] at same ⊢
  simp [same]

/-- Filtering and numbering change nothing but the groups of nodes. -/
theorem Partitioned.predicted {tree : Tree} {seeds : List DeclId} {hood numbered : Neighborhood}
    {marker : String} {keepIsolated : Bool} {ids idsAfter : Ids}
    (partitioned : Partitioned (hood.filter marker) keepIsolated ids numbered idsAfter)
    (predicted : ∀ n ∈ hood.nodes, Predicted tree seeds n) :
    ∀ n ∈ numbered.nodes, Predicted tree seeds n := by
  intro n present
  have kept : n.withoutGroup ∈ (hood.filter marker).nodes.map Node.withoutGroup := by
    rw [← partitioned.nodes]
    exact List.mem_map_of_mem present
  obtain ⟨old, among, same⟩ := List.mem_map.mp kept
  have good := predicted old ((hood.nodes_filter_sublist marker).subset among)
  rw [Node.eq_of_withoutGroup same]
  exact ⟨good.declared, good.seed, good.valid⟩

end Graph

/-! ### Runs -/

namespace Run

open DefectGraph.Graph

/-- A tree that was read is the tree of a text that was read. -/
theorem readTree_ok {reader : Reader} {path : Path} {w after : Workspace} {tree : Tree}
    (done : (readTree reader path).exec w = (.ok tree, after)) :
    ∃ text read, (Job.readSource path).exec w = (.ok text, read) ∧ reader.read text = some tree ∧
      after = { read with notices := read.notices ++ treeNotices tree } := by
  obtain ⟨text, read, isText, done⟩ := Job.exec_bind_ok.mp done
  refine ⟨text, read, isText, ?_⟩
  cases answer : reader.read text with
  | none => simp [answer] at done
  | some other =>
    simp only [answer] at done
    cases done
    exact ⟨rfl, rfl⟩

/-- A tree that the grammar gives comes from a text without syntax errors, of which there is nothing to
report. -/
theorem readTree_grammar_ok {path : Path} {w after : Workspace} {tree : Tree}
    (done : (readTree .grammar path).exec w = (.ok tree, after)) :
    ∃ text, (Job.readSource path).exec w = (.ok text, after) ∧ Tree.ofSource? text = some tree := by
  obtain ⟨text, read, isText, isTree, rfl⟩ := readTree_ok done
  obtain ⟨unit, _, rfl⟩ := Option.map_eq_some_iff.mp isTree
  have nothing : treeNotices (Tree.ofUnit text unit) = [] := rfl
  rw [nothing, List.append_nil]
  exact ⟨text, isText, isTree⟩

/-- The seeds of a prediction are the methods, in order. -/
theorem predictionSeeds_nodes {tree : Tree} {decls : List Declaration} {w after : Workspace}
    {nodes : List Node} (done : (predictionSeeds tree decls).exec w = (.ok nodes, after)) :
    nodes.map Node.decl = (decls.filter fun d => d.kind == .method).map Declaration.id ∧
      ∀ n ∈ nodes, ∃ id, n = { predictionTemplate.node tree n.decl id with seed := true } := by
  induction decls generalizing w nodes with
  | nil =>
    cases done
    exact ⟨rfl, by simp⟩
  | cons d rest ih =>
    unfold predictionSeeds at done
    split at done
    · rename_i method
      obtain ⟨id, drawn, draw, others⟩ := Job.exec_bind_ok.mp done
      obtain ⟨seeds, between, recursive, result⟩ := Job.exec_bind_ok.mp others
      cases draw
      cases result
      obtain ⟨decls, seeds⟩ := ih recursive
      refine ⟨?_, List.forall_mem_cons.mpr ⟨⟨_, rfl⟩, seeds⟩⟩
      have kept : ((d :: rest).filter fun d => d.kind == .method) =
          d :: rest.filter fun d => d.kind == .method := by simp [method]
      rw [kept, List.map_cons, List.map_cons, decls]
      rfl
    · rename_i other
      have dropped : ((d :: rest).filter fun d => d.kind == .method) =
          rest.filter fun d => d.kind == .method := by simp [other]
      rw [dropped]
      exact ih done

/-- The methods of a file are the seeds of its prediction. -/
theorem mem_predictionSeeds_iff {tree : Tree} {w after : Workspace} {seeds : List Node}
    (done : (predictionSeeds tree tree.decls).exec w = (.ok seeds, after)) (id : DeclId) :
    id ∈ seeds.map Node.decl ↔ ∃ d, tree.decl? id = some d ∧ d.kind = .method := by
  rw [(predictionSeeds_nodes done).1, List.mem_map]
  constructor
  · rintro ⟨d, among, rfl⟩
    obtain ⟨declared, method⟩ := List.mem_filter.mp among
    exact ⟨d, tree.decl?_id declared, beq_iff_eq.mp method⟩
  · rintro ⟨d, found, method⟩
    refine ⟨d, List.mem_filter.mpr ⟨List.mem_of_getElem? found, beq_iff_eq.mpr method⟩, ?_⟩
    exact tree.id_of_decl? found

/-- Each seed stands for its method. -/
theorem predicted_predictionSeeds {tree : Tree} {w after : Workspace} {seeds : List Node}
    (done : (predictionSeeds tree tree.decls).exec w = (.ok seeds, after)) :
    ∀ seed ∈ seeds, Predicted tree (seeds.map Node.decl) seed := by
  intro seed among
  have key : seed.decl ∈ seeds.map Node.decl := List.mem_map_of_mem among
  obtain ⟨d, found, method⟩ := (mem_predictionSeeds_iff done seed.decl).mp key
  obtain ⟨id, isSeed⟩ := (predictionSeeds_nodes done).2 seed among
  have callable : d.kind ≠ .enumConstant := by
    rw [method]
    decide
  refine ⟨⟨d, found, callable, ?_⟩, ?_, ?_⟩
  · rw [isSeed]
    exact signature_of_decl? found
  · have flag : seed.seed = true := by rw [isSeed]
    exact ⟨fun _ => key, fun _ => flag⟩
  · have valid : seed.valid = true := by
      rw [isSeed]
      rfl
    intro invalid
    rw [valid] at invalid
    cases invalid

/-- Which declarations of a file have a row, by kind; `hood` is what was extracted. -/
structure PredictionRows (tree : Tree) (marker : String) (hood : Neighborhood) (nodes : List Node) :
    Prop where
  once : (nodes.map Node.decl).Nodup
  /-- No row is for an enum constant. -/
  declared : ∀ n ∈ nodes, ∃ d, tree.decl? n.decl = some d ∧ d.kind ≠ .enumConstant ∧
    n.signature = d.signature
  method : ∀ id d, tree.decl? id = some d → d.kind = .method →
    (id ∈ nodes.map Node.decl ↔ ¬ Marked marker d.signature)
  constructor : ∀ id d, tree.decl? id = some d → d.kind = .constructor →
    (id ∈ nodes.map Node.decl ↔ hood.Survives marker id ∧ hood.Linked marker id)
  grouped : ∀ n ∈ nodes, n.graphId.isSome = true

/-- Rows without an edge are alone in their groups. -/
def AloneUnlinked (marker : String) (hood : Neighborhood) (nodes : List Node) : Prop :=
  ∀ n ∈ nodes, ¬ hood.Linked marker n.decl → ∀ m ∈ nodes, m.graphId = n.graphId → m = n

/-- A method survives unless it is marked. -/
theorem survives_method_iff {tree : Tree} {marker : String} {hood : Neighborhood}
    {seeds : List DeclId} (first : ∀ d ∈ tree.decls, d.RedirectsFirst)
    (known : ∀ decl ∈ seeds, decl ∈ hood.keys) (predicted : ∀ n ∈ hood.nodes, Predicted tree seeds n)
    {id : DeclId} {d : Declaration} (found : tree.decl? id = some d) (method : d.kind = .method)
    (seed : id ∈ seeds) : hood.Survives marker id ↔ ¬ Marked marker d.signature := by
  have signature : ∀ n ∈ hood.nodes, n.decl = id → n.signature = d.signature := by
    rintro n present rfl
    obtain ⟨other, there, _, same⟩ := (predicted n present).declared
    rw [found] at there
    cases there
    exact same
  constructor
  · rintro ⟨n, present, here, _, unmarked⟩
    rwa [signature n present here] at unmarked
  · intro unmarked
    obtain ⟨n, present, here⟩ := List.mem_map.mp (known id seed)
    refine ⟨n, present, here, ?_, by rwa [signature n present here]⟩
    rw [← Bool.not_eq_false]
    intro invalid
    have breaks := (predicted n present).valid invalid
    rw [here] at breaks
    exact not_breaksOff_of_method first found method breaks

/-- The nodes that are shown are those that survive and have an edge or are seeds. -/
theorem mem_shown_iff {tree : Tree} {marker : String} {hood numbered : Neighborhood}
    {seeds : List DeclId} {ids after : Ids} (wellFormed : hood.WellFormed)
    (predicted : ∀ n ∈ hood.nodes, Predicted tree seeds n)
    (partitioned : Partitioned (hood.filter marker) true ids numbered after)
    (kept : IsolatedKept numbered after) (id : DeclId) :
    id ∈ (shown numbered).map Node.decl ↔
      hood.Survives marker id ∧ (hood.Linked marker id ∨ id ∈ seeds) := by
  have flags := partitioned.predicted predicted
  rw [← Neighborhood.mem_keys_filter_iff wellFormed, ← partitioned.keys,
    ← partitioned.touched_iff_linked wellFormed, shown, List.mem_map, Neighborhood.keys,
    List.mem_map]
  constructor
  · rintro ⟨n, among, rfl⟩
    obtain ⟨present, number⟩ := List.mem_filter.mp among
    refine ⟨⟨n, present, rfl⟩, ?_⟩
    rw [← (flags n present).seed]
    exact (kept.grouped n present).mp number
  · rintro ⟨⟨n, present, rfl⟩, reason⟩
    rw [← (flags n present).seed] at reason
    exact ⟨n, List.mem_filter.mpr ⟨present, (kept.grouped n present).mpr reason⟩, rfl⟩

/-- The rows around the seeds of a prediction. -/
theorem rows_of_extract? {tree : Tree} {w seeded : Workspace} {seeds : List Node}
    {hood : Neighborhood} {events : List Event} {drawn : Ids} (marker : String)
    (first : ∀ d ∈ tree.decls, d.RedirectsFirst)
    (seeding : (predictionSeeds tree tree.decls).exec w = (.ok seeds, seeded))
    (extracted : extract? predictionTemplate tree seeds seeded.ids = some (hood, events, drawn)) :
    PredictionRows tree marker hood (shown ((hood.filter marker).partition true drawn).1) ∧
      (((hood.filter marker).partition true drawn).2.2.groups ≤ idLimit →
        AloneUnlinked marker hood (shown ((hood.filter marker).partition true drawn).1)) := by
  have ofExtract := extracted_of_extract? (predictionSeeds_ok seeding) extracted
  have ungrouped := (ofExtract.filter marker).ungrouped
  have wellFormed := ofExtract.wellFormed
  obtain ⟨known, predicted⟩ :=
    predicted_of_extract? (predicted_predictionSeeds seeding) extracted
  have partitioned := partition_spec (hood.filter marker) true drawn ungrouped
  have kept := isolatedKept (hood.filter marker) drawn ungrouped
  have shownIff := mem_shown_iff wellFormed predicted partitioned kept
  have present : ∀ {n : Node}, n ∈ shown ((hood.filter marker).partition true drawn).1 →
      n ∈ ((hood.filter marker).partition true drawn).1.nodes := fun among =>
    (List.mem_filter.mp among).1
  refine ⟨⟨?_, ?_, ?_, ?_, ?_⟩, ?_⟩
  · have keys := (wellFormed.filter marker).keysNodup
    rw [← partitioned.keys] at keys
    exact keys.sublist (List.filter_sublist.map _)
  · exact fun n among => (partitioned.predicted predicted n (present among)).declared
  · intro id d found method
    have seed : id ∈ seeds.map Node.decl := (mem_predictionSeeds_iff seeding id).mpr ⟨d, found, method⟩
    rw [shownIff, ← survives_method_iff first known predicted found method seed]
    exact ⟨And.left, fun survives => ⟨survives, Or.inr seed⟩⟩
  · intro id d found constructor
    have other : id ∉ seeds.map Node.decl := by
      rw [mem_predictionSeeds_iff seeding]
      rintro ⟨d', found', method⟩
      rw [found] at found'
      cases found'
      rw [constructor] at method
      cases method
    rw [shownIff, or_iff_left other]
  · exact fun n among => (List.mem_filter.mp among).2
  · intro fits n among unlinked m other same
    refine kept.alone fits n (present among) ?_ (List.mem_filter.mp among).2 m (present other) same
    intro e there touches
    exact unlinked ((partitioned.touched_iff_linked wellFormed n.decl).mp ⟨e, there, touches⟩)

/-- A prediction that is done has written one row for every method that is not marked, none for an enum
constant, and one for a constructor exactly if it survives and has an edge between declarations that
survive. As long as no group number is drawn twice, a row without such an edge is alone in its group. -/
theorem prediction_covers_methods (options : RunOptions) (files : FileStore) (ids : Ids)
    (notices : List Notice) (summary : Summary) (w : Workspace)
    (done : (prediction ⟨options, .grammar⟩).exec ⟨files, ids, notices⟩ = (.ok summary, w)) :
    ∃ text start tree seeds seeded hood events drawn nodes,
      (Job.readSource options.input).exec ⟨files, ids, notices⟩ = (.ok text, start) ∧
      Tree.ofSource? text = some tree ∧
      (predictionSeeds tree tree.decls).exec start = (.ok seeds, seeded) ∧
      extract? predictionTemplate tree seeds seeded.ids = some (hood, events, drawn) ∧
      w.files.read (nodesFile options.output) =
        .ok (Text.Utf8.encode (predictionTable (nodes.map predictionRow)).text) ∧
      summary.nodes = nodes.length ∧
      PredictionRows tree options.config.excludeMarker hood nodes ∧
      (w.ids.groups ≤ idLimit → AloneUnlinked options.config.excludeMarker hood nodes) := by
  obtain ⟨tree, start, seeds, seeded, numbered, expanded, reading, seeding, expand, drawnEq, written, _,
    rfl⟩ := prediction_written done
  obtain ⟨text, isText, isTree⟩ := readTree_grammar_ok reading
  rw [exec_expand] at expand
  rcases extracted : extract? predictionTemplate tree seeds seeded.ids with _ | ⟨hood, events, drawn⟩
  · simp [extracted] at expand
  · simp only [extracted] at expand
    cases expand
    have rows := rows_of_extract? options.config.excludeMarker
      (Tree.redirectsFirst_of_source isTree) seeding extracted
    rw [drawnEq]
    exact ⟨text, start, tree, seeds, seeded, hood, events, drawn, _, isText, isTree, seeding, extracted,
      written, rfl, rows.1, rows.2⟩

/-- A file with a constructor that is called and one that is not, a method without calls, one that is
marked, and an enum constant. -/
def kindsFiles : FileStore := ⟨[
  (["B.java"], .file (Text.Utf8.encode
    "class B { B() {} void f() { new B(); } void lone() {} void test() {} enum E { X; E() {} } }"))]⟩

/-- Of the six declarations of the file, three have a row. -/
theorem prediction_covers_methods_of_kinds :
    ∃ summary w,
      (prediction (sampleOptions "B.java")).exec ⟨kindsFiles, .zero, []⟩ = (.ok summary, w) ∧
      summary.nodes = 3 ∧ w.ids.groups = 2 ∧
      ∃ text start tree seeds seeded hood events drawn nodes,
        (Job.readSource "B.java").exec ⟨kindsFiles, .zero, []⟩ = (.ok text, start) ∧
        Tree.ofSource? text = some tree ∧
        (predictionSeeds tree tree.decls).exec start = (.ok seeds, seeded) ∧
        extract? predictionTemplate tree seeds seeded.ids = some (hood, events, drawn) ∧
        w.files.read (nodesFile "out") =
          .ok (Text.Utf8.encode (predictionTable (nodes.map predictionRow)).text) ∧
        summary.nodes = nodes.length ∧ PredictionRows tree "test" hood nodes ∧
        AloneUnlinked "test" hood nodes := by
  have predicted :
      ((prediction (sampleOptions "B.java")).exec ⟨kindsFiles, .zero, []⟩).1.toOption.map
        Summary.nodes = some 3 ∧
      ((prediction (sampleOptions "B.java")).exec ⟨kindsFiles, .zero, []⟩).2.ids.groups = 2 := by
    decide +kernel
  have isDone :
      ((prediction (sampleOptions "B.java")).exec ⟨kindsFiles, .zero, []⟩).1.toOption.isSome = true := by
    rw [← Option.isSome_map, predicted.1]
    rfl
  obtain ⟨summary, done⟩ := Job.exec_ok_of_toOption isDone
  have counted := predicted.1
  rw [done] at counted
  have fits : ((prediction (sampleOptions "B.java")).exec ⟨kindsFiles, .zero, []⟩).2.ids.groups ≤
      idLimit := by
    rw [predicted.2]
    decide
  obtain ⟨text, start, tree, seeds, seeded, hood, events, drawn, nodes, isText, isTree, seeding,
    extracted, written, length, rows, alone⟩ :=
    prediction_covers_methods (sampleOptions "B.java").toRunOptions kindsFiles .zero [] summary _ done
  exact ⟨summary, _, done, Option.some.inj counted, predicted.2, text, start, tree, seeds, seeded, hood,
    events, drawn, nodes, isText, isTree, seeding, extracted, written, length, rows, alone fits⟩

end Run

end DefectGraph
