import DefectGraph.Graph.Node
import DefectGraph.Text.Search

/-!
# Neighborhoods

The nodes and edges found for one file, in the order in which they were found. No declaration has two
nodes and no two edges have the same ends.

## Main Definitions

* `Neighborhood` - nodes and edges.
* `Neighborhood.putNode`, `Neighborhood.addEdge` - add a node or an edge unless it is there.
* `Neighborhood.filter` - leaves out nodes with a marker in their signature, and their edges.

## Design Notes

Nodes and edges are lists, because their order decides the numbers of groups and the order of rows.
-/

namespace DefectGraph.Graph

open DefectGraph.Source (DeclId)

/-- The nodes and edges of one file. -/
structure Neighborhood where
  nodes : List Node
  edges : List Edge
  deriving DecidableEq, Repr

namespace Neighborhood

/-- Nothing found. -/
def empty : Neighborhood := ⟨[], []⟩

/-- The node of a declaration. -/
def node? (h : Neighborhood) (decl : DeclId) : Option Node :=
  h.nodes.find? fun n => n.decl == decl

/-- The declaration has a node. -/
def hasNode (h : Neighborhood) (decl : DeclId) : Bool :=
  h.nodes.any fun n => n.decl == decl

/-- Changes the node of a declaration in place. -/
def updateNode (h : Neighborhood) (decl : DeclId) (change : Node → Node) : Neighborhood :=
  { h with nodes := h.nodes.map fun n => if n.decl == decl then change n else n }

/-- Puts a node in the place of the one for the same declaration, else behind all others. -/
def putNode (h : Neighborhood) (n : Node) : Neighborhood :=
  if h.hasNode n.decl then h.updateNode n.decl fun _ => n
  else { h with nodes := h.nodes ++ [n] }

/-- An edge with these ends is there. -/
def hasEdge (h : Neighborhood) (source destination : DeclId) : Bool :=
  h.edges.any (Edge.sameEnds ⟨source, destination, none⟩)

/-- Adds an edge unless one with the same ends is there. -/
def addEdge (h : Neighborhood) (source destination : DeclId) : Neighborhood :=
  if h.hasEdge source destination then h
  else { h with edges := h.edges ++ [⟨source, destination, none⟩] }

/-- Joins a second node for the same declaration to the first; `none` on overflow. -/
def absorb? (h : Neighborhood) (n : Node) : Option Neighborhood := do
  let first ← h.node? n.decl
  let joined ← first.absorb? n
  return h.updateNode n.decl fun _ => joined

/-- The signature holds the marker; the empty marker marks nothing. -/
def isMarked (marker : String) (n : Node) : Bool :=
  !marker.isEmpty && Text.occursIn marker.toList n.signature.toList

/-- The declarations of the nodes that are not shown: those that are invalid or marked. -/
def hidden (h : Neighborhood) (marker : String) : List DeclId :=
  (h.nodes.filter fun n => !n.valid || isMarked marker n).map Node.decl

/-- Drops the nodes that are not shown, and the edges that touch them. -/
def filter (h : Neighborhood) (marker : String) : Neighborhood :=
  let gone := h.hidden marker
  ⟨h.nodes.filter fun n => !gone.contains n.decl,
   h.edges.filter fun e => !gone.contains e.source && !gone.contains e.destination⟩

end Neighborhood

end DefectGraph.Graph
