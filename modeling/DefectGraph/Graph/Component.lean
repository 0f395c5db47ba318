import DefectGraph.Graph.Neighborhood

/-!
# Groups

Nodes that edges join, in whichever direction, form a group. Groups get their numbers in the order of
their first edges; seeds without edges may get groups of their own after that.

## Main Definitions

* `Labels` - a label for every end of an edge, the same label within a group.
* `Neighborhood.partition` - numbers the groups of a neighborhood.

## Design Notes

Every end of an edge starts with itself as its label, and each edge gives the label of its source to all that
have the label of its destination. Labels are numbered when an edge with a new one is met, so the order of
numbers does not depend on which declaration of a group became its label.
-/

namespace DefectGraph.Graph

open DefectGraph.Source (DeclId)

/-- A label for every declaration that an edge touches. -/
abbrev Labels : Type := List (DeclId × DeclId)

namespace Labels

/-- The label of a declaration. -/
def of (labels : Labels) (decl : DeclId) : DeclId :=
  (labels.lookup decl).getD decl

/-- Every end of an edge labels itself. -/
def ofEnds (edges : List Edge) : Labels :=
  (edges.flatMap fun e => [e.source, e.destination]).eraseDups.map fun d => (d, d)

/-- Gives both ends of an edge, and all that shared a label with them, one label. -/
def join (labels : Labels) (e : Edge) : Labels :=
  let kept := labels.of e.source
  let lost := labels.of e.destination
  labels.map fun (d, label) => (d, if label == lost then kept else label)

/-- Labels that are equal exactly within a group. -/
def ofEdges (edges : List Edge) : Labels :=
  edges.foldl join (ofEnds edges)

end Labels

/-- The labels that have a group number, with their numbers, the first ones first. -/
abbrev Groups : Type := List (DeclId × Nat)

/-- Numbers the groups of edges, which are labelled already. -/
def numberEdges (labels : Labels) (groups : Groups) (ids : Ids) :
    List Edge → List Edge × Groups × Ids
  | [] => ([], groups, ids)
  | e :: rest =>
    let label := labels.of e.source
    match groups.lookup label with
    | some id =>
      let (edges, groups, ids) := numberEdges labels groups ids rest
      ({ e with graphId := some id } :: edges, groups, ids)
    | none =>
      let (id, ids) := ids.nextGroup
      let (edges, groups, ids) := numberEdges labels (groups ++ [(label, id)]) ids rest
      ({ e with graphId := some id } :: edges, groups, ids)

/-- The number of the last edge that touches a declaration. -/
def numberAt? (edges : List Edge) (decl : DeclId) : Option Nat :=
  (edges.reverse.find? fun e => e.source == decl || e.destination == decl).bind Edge.graphId

/-- The node with the number of the edges that touch it, if there are any. -/
def Node.numbered (edges : List Edge) (n : Node) : Node :=
  { n with graphId := (numberAt? edges n.decl).or n.graphId }

/-- Gives every seed that has no number a group of its own, and counts these groups. -/
def numberIsolated (ids : Ids) : List Node → List Node × Nat × Ids
  | [] => ([], 0, ids)
  | n :: rest =>
    if n.graphId.isNone && n.seed then
      let (id, ids) := ids.nextGroup
      let (nodes, count, ids) := numberIsolated ids rest
      ({ n with graphId := some id } :: nodes, count + 1, ids)
    else
      let (nodes, count, ids) := numberIsolated ids rest
      (n :: nodes, count, ids)

/-- Numbers the groups of a neighborhood, and counts them. With `keepIsolated`, seeds without edges are
groups as well. -/
def Neighborhood.partition (h : Neighborhood) (keepIsolated : Bool) (ids : Ids) :
    Neighborhood × Nat × Ids :=
  let (edges, groups, ids) := numberEdges (Labels.ofEdges h.edges) [] ids h.edges
  let nodes := h.nodes.map (Node.numbered edges)
  if keepIsolated then
    let (nodes, count, ids) := numberIsolated ids nodes
    (⟨nodes, edges⟩, groups.length + count, ids)
  else (⟨nodes, edges⟩, groups.length, ids)

end DefectGraph.Graph
