import DefectGraph.Source.Reference

/-!
# Nodes, edges and their numbers

## Main Definitions

* `Ids` - how many node and group numbers have been drawn.
* `Node` - a declaration in a call graph.
* `Node.absorb` - joins a second seed for the same declaration to the first.
* `Edge` - a call or construction.

## Design Notes

Bug counts are 64-bit signed integers: a sum beyond them is an overflow, which ends the work on the file.
Numbers drawn for nodes and groups have 32 bits and start again from zero after the last one.
-/

namespace DefectGraph.Graph

open DefectGraph.Source (DeclId)

/-- The count of different node or group numbers. -/
def idLimit : Nat := 4294967296

/-- How many node numbers and group numbers have been drawn. -/
structure Ids where
  nodes : Nat
  groups : Nat
  deriving DecidableEq, Repr

/-- Nothing drawn. -/
def Ids.zero : Ids := ⟨0, 0⟩

/-- Draws a node number. -/
def Ids.nextNode (ids : Ids) : Nat × Ids :=
  (ids.nodes % idLimit, { ids with nodes := ids.nodes + 1 })

/-- Draws a group number. -/
def Ids.nextGroup (ids : Ids) : Nat × Ids :=
  (ids.groups % idLimit, { ids with groups := ids.groups + 1 })

/-- The bug count of a declaration that was only discovered. -/
def discoveredBugs : Int := -1

/-- The least bug count. -/
def minBugs : Int := -9223372036854775808

/-- The largest bug count. -/
def maxBugs : Int := 9223372036854775807

/-- A declaration in a call graph. -/
structure Node where
  /-- The declaration; a graph holds at most one node for it. -/
  decl : DeclId
  id : Nat
  project : String
  hash : String
  /-- The binary name of the type that the declaration is a member of. -/
  parent : String
  /-- The path of the copied source file. -/
  classSourceFile : String
  signature : String
  /-- The long name that led to the declaration. -/
  longName : Option String
  bugs : Int
  /-- The node stands for a record or for a method to predict, and was not only discovered. -/
  seed : Bool
  /-- The node may be shown. -/
  valid : Bool
  /-- The declaration is a constructor whose only statement is `super(...)`. -/
  explicitSuper : Bool
  graphId : Option Nat
  deriving DecidableEq, Repr

/-- The sum of two bug counts, the first taken as zero when negative; `none` on overflow. -/
def addBugs? (a b : Int) : Option Int :=
  let sum := max a 0 + b
  if minBugs ≤ sum ∧ sum ≤ maxBugs then some sum else none

/-- Joins a second node for the same declaration to the first, which keeps all but the count. -/
def Node.absorb? (n other : Node) : Option Node :=
  if other.seed then
    (addBugs? n.bugs other.bugs).map fun bugs => { n with bugs }
  else some n

/-- A call or construction from one declaration to another. -/
structure Edge where
  source : DeclId
  destination : DeclId
  graphId : Option Nat
  deriving DecidableEq, Repr

/-- The edges have the same ends. -/
def Edge.sameEnds (a b : Edge) : Bool :=
  a.source == b.source && a.destination == b.destination

end DefectGraph.Graph
