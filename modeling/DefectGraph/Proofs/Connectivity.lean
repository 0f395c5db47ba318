import DefectGraph.Proofs.Component
import Mathlib.Logic.Relation

/-!
# Groups are connected components

Two declarations that edges touch are in one group exactly when a path of edges joins them, whichever way
its edges point.

## Main Definitions

* `Joined` - a path of edges, taken in either direction, leads from one declaration to another.
* `Groups.Distinct` - the numbers of groups differ and are below what has been drawn.
* `ComponentNumbering` - a neighborhood whose groups are its connected components.

## Main Statements

* `Labels.of_ofEdges_eq_iff` - labels are equal exactly where a path joins what they label.
* `Groups.Distinct.numberEdges` - different labels get different numbers.
* `partition_components` - the groups of a neighborhood are its connected components.

## Design Notes

That a label is joined to what it labels is an invariant of merging, edge by edge; that the ends of an edge
have one label is known once all edges are merged. The two directions of `Labels.of_ofEdges_eq_iff` rest on
these two facts. `Joined` is the reflexive and transitive closure of the library, so that a path is followed
by the induction that comes with it.
-/

namespace DefectGraph.Graph

open DefectGraph.Source (DeclId)

/-! ### Paths -/

/-- An edge leads from one of the declarations to the other. -/
def Adjacent (edges : List Edge) (a b : DeclId) : Prop :=
  ∃ e ∈ edges, (e.source = a ∧ e.destination = b) ∨ (e.source = b ∧ e.destination = a)

/-- A path of edges, each taken in either direction, leads from one declaration to the other. -/
def Joined (edges : List Edge) : DeclId → DeclId → Prop := Relation.ReflTransGen (Adjacent edges)

/-- An edge joins its ends both ways. -/
theorem Adjacent.symm {edges : List Edge} {a b : DeclId} (step : Adjacent edges a b) :
    Adjacent edges b a := by
  obtain ⟨e, present, forward | backward⟩ := step
  · exact ⟨e, present, Or.inr forward⟩
  · exact ⟨e, present, Or.inl backward⟩

namespace Joined

variable {edges : List Edge} {a b c : DeclId}

theorem refl (edges : List Edge) (a : DeclId) : Joined edges a a := Relation.ReflTransGen.refl

theorem trans (first : Joined edges a b) (second : Joined edges b c) : Joined edges a c :=
  Relation.ReflTransGen.trans first second

/-- A path can be walked back. -/
theorem symm (path : Joined edges a b) : Joined edges b a := by
  induction path with
  | refl => exact .refl edges a
  | tail _ step ih => exact trans (Relation.ReflTransGen.single step.symm) ih

/-- An edge joins its ends. -/
theorem ends {e : Edge} (present : e ∈ edges) : Joined edges e.source e.destination :=
  Relation.ReflTransGen.single ⟨e, present, Or.inl ⟨rfl, rfl⟩⟩

end Joined

/-! ### Labels -/

namespace Labels

/-- A declaration without a label stands for itself. -/
theorem of_eq_self {labels : Labels} {decl : DeclId} (unlabelled : ¬ labels.Has decl) :
    labels.of decl = decl := by
  have missing : labels.lookup decl = none := by
    rw [Has, Option.isSome_iff_ne_none, ne_eq, not_not] at unlabelled
    exact unlabelled
  rw [of, missing]
  rfl

/-- The label of a declaration is joined to it, after a join as before. -/
theorem joined_join {edges : List Edge} {labels : Labels} {e : Edge} (present : e ∈ edges)
    (joined : ∀ decl, Joined edges decl (labels.of decl)) (decl : DeclId) :
    Joined edges decl ((labels.join e).of decl) := by
  by_cases has : labels.Has decl
  · rw [of_join labels e has]
    split
    · rename_i lost
      -- The declaration had the label of the destination, which gives way to that of the source.
      have toDestination : Joined edges decl e.destination := by
        have path := joined decl
        rw [lost] at path
        exact path.trans (joined e.destination).symm
      exact (toDestination.trans (Joined.ends present).symm).trans (joined e.source)
    · exact joined decl
  · rw [of_eq_self fun kept => has ((has_join labels e decl).mp kept)]
    exact .refl edges decl

/-- Labels only move along edges. -/
theorem joined_joinAll {edges : List Edge} (taken : List Edge) (part : ∀ e ∈ taken, e ∈ edges)
    {labels : Labels} (joined : ∀ decl, Joined edges decl (labels.of decl)) (decl : DeclId) :
    Joined edges decl ((taken.foldl join labels).of decl) := by
  induction taken generalizing labels with
  | nil => exact joined decl
  | cons e rest ih =>
    rw [List.foldl_cons]
    refine ih (fun other later => part other (List.mem_cons_of_mem _ later)) ?_
    exact joined_join (part e List.mem_cons_self) joined

/-- At the start every declaration is its own label. -/
theorem of_ofEnds (edges : List Edge) (decl : DeclId) : (ofEnds edges).of decl = decl := by
  have own : ∀ decls : List DeclId,
      (List.lookup decl (decls.map fun d => (d, d))).getD decl = decl := by
    intro decls
    induction decls with
    | nil => rfl
    | cons first rest ih =>
      by_cases here : decl = first
      · simp [here]
      · simpa [List.lookup_cons, beq_false_of_ne here] using ih
  exact own _

/-- A declaration is joined to its label. -/
theorem joined_of_ofEdges (edges : List Edge) (decl : DeclId) :
    Joined edges decl ((ofEdges edges).of decl) := by
  refine joined_joinAll edges (fun _ present => present) (fun d => ?_) decl
  rw [of_ofEnds]
  exact .refl edges d

/-- Labels are equal exactly where a path joins what they label. -/
theorem of_ofEdges_eq_iff (edges : List Edge) (a b : DeclId) :
    (ofEdges edges).of a = (ofEdges edges).of b ↔ Joined edges a b := by
  constructor
  · intro same
    have fromA := joined_of_ofEdges edges a
    rw [same] at fromA
    exact fromA.trans (joined_of_ofEdges edges b).symm
  · intro path
    induction path with
    | refl => rfl
    | tail _ step ih =>
      obtain ⟨e, present, ⟨rfl, rfl⟩ | ⟨rfl, rfl⟩⟩ := step
      · exact ih.trans (of_ofEdges present)
      · exact ih.trans (of_ofEdges present).symm

end Labels

/-! ### Numbers -/

/-- Different labels have different numbers, all of them drawn before the count. -/
structure Groups.Distinct (groups : Groups) (count : Nat) : Prop where
  below : ∀ label id, groups.lookup label = some id → id < count
  apart : ∀ a b id, groups.lookup a = some id → groups.lookup b = some id → a = b

namespace Groups.Distinct

theorem nil (count : Nat) : Groups.Distinct [] count := ⟨by simp, by simp⟩

/-- The number drawn next is the number of no group so far. -/
theorem concat {groups : Groups} {count : Nat} (distinct : groups.Distinct count) (label : DeclId) :
    Groups.Distinct (groups ++ [(label, count)]) (count + 1) := by
  have cases : ∀ other id, (groups ++ [(label, count)]).lookup other = some id →
      groups.lookup other = some id ∨ other = label ∧ id = count := by
    intro other id found
    rw [lookup_append_singleton] at found
    rcases Option.or_eq_some_iff.mp found with old | ⟨_, new⟩
    · exact Or.inl old
    · by_cases here : other = label
      · rw [if_pos here] at new
        exact Or.inr ⟨here, (Option.some.inj new).symm⟩
      · simp [here] at new
  refine ⟨fun other id found => ?_, fun a b id foundA foundB => ?_⟩
  · rcases cases other id found with old | ⟨_, rfl⟩
    · exact Nat.lt_succ_of_lt (distinct.below other id old)
    · exact Nat.lt_succ_self _
  · rcases cases a id foundA with oldA | ⟨rfl, rfl⟩
    · rcases cases b id foundB with oldB | ⟨rfl, rfl⟩
      · exact distinct.apart a b id oldA oldB
      · exact absurd (distinct.below a _ oldA) (Nat.lt_irrefl _)
    · rcases cases b _ foundB with oldB | ⟨rfl, _⟩
      · exact absurd (distinct.below b _ oldB) (Nat.lt_irrefl _)
      · rfl

/-- Numbering edges gives different labels different numbers, as long as no number is drawn twice. -/
theorem numberEdges {groups : Groups} {ids : Ids} (labels : Labels) (edges : List Edge)
    (distinct : groups.Distinct ids.groups)
    (fits : (Graph.numberEdges labels groups ids edges).2.2.groups ≤ idLimit) :
    (Graph.numberEdges labels groups ids edges).2.1.Distinct
      (Graph.numberEdges labels groups ids edges).2.2.groups := by
  induction edges generalizing groups ids with
  | nil => exact distinct
  | cons e rest ih =>
    cases known : groups.lookup (labels.of e.source) with
    | some id =>
      simp only [Graph.numberEdges, known] at fits ⊢
      exact ih distinct fits
    | none =>
      simp only [Graph.numberEdges, known] at fits ⊢
      have drawn := (numberEdges_spec labels (groups ++ [(labels.of e.source, ids.nextGroup.1)])
        ids.nextGroup.2 rest).groupsDrawn
      have number : ids.nextGroup.1 = ids.groups := nextGroup_fst (Nat.lt_of_lt_of_le drawn fits)
      refine ih ?_ fits
      rw [number]
      exact distinct.concat (labels.of e.source)

end Groups.Distinct

/-! ### Neighborhoods -/

/-- Some edge starts or ends at the declaration. -/
def Neighborhood.IsEnd (h : Neighborhood) (decl : DeclId) : Prop := ∃ e ∈ h.edges, e.Touches decl

/-- The second neighborhood is the first with numbers, the same exactly within a connected
component. -/
structure ComponentNumbering (h numbered : Neighborhood) : Prop where
  nodes : numbered.nodes.map Node.withoutGroup = h.nodes.map Node.withoutGroup
  ends : numbered.ends = h.ends
  edgeNumber : ∀ e ∈ numbered.edges, e.graphId.isSome = true
  endNode : ∀ decl, numbered.IsEnd decl → decl ∈ numbered.keys
  touched : ∀ e ∈ numbered.edges, ∀ n ∈ numbered.nodes, e.Touches n.decl → n.graphId = e.graphId
  components : ∀ a ∈ numbered.nodes, ∀ b ∈ numbered.nodes, numbered.IsEnd a.decl →
    numbered.IsEnd b.decl → (a.graphId = b.graphId ↔ Joined h.edges a.decl b.decl)

/-- Splitting a neighborhood changes no edges but for their numbers. -/
theorem edges_partition (h : Neighborhood) (keepIsolated : Bool) (ids : Ids) :
    (h.partition keepIsolated ids).1.edges =
      (numberEdges (.ofEdges h.edges) [] ids h.edges).1 := by
  cases keepIsolated <;> rfl

/-- A group number drawn for an edge is drawn at the end as well. -/
theorem groups_numberEdges_le (h : Neighborhood) (keepIsolated : Bool) (ids : Ids) :
    (numberEdges (.ofEdges h.edges) [] ids h.edges).2.2.groups ≤
      (h.partition keepIsolated ids).2.2.groups := by
  cases keepIsolated with
  | false => exact Nat.le_refl _
  | true => exact (numberIsolated_spec _ _).groupsDrawn

/-- Two edges have one number exactly when a path joins what they touch. -/
theorem graphId_eq_iff {h : Neighborhood} {ids : Ids}
    (fits : (numberEdges (.ofEdges h.edges) [] ids h.edges).2.2.groups ≤ idLimit) {e f : Edge}
    (eNumbered : e ∈ (numberEdges (.ofEdges h.edges) [] ids h.edges).1)
    (fNumbered : f ∈ (numberEdges (.ofEdges h.edges) [] ids h.edges).1) {a b : DeclId}
    (touchesA : e.Touches a) (touchesB : f.Touches b) :
    e.graphId = f.graphId ↔ Joined h.edges a b := by
  have numbering := numberEdges_spec (.ofEdges h.edges) [] ids h.edges
  have distinct := Groups.Distinct.numberEdges (.ofEdges h.edges) h.edges (.nil ids.groups) fits
  rw [← Labels.of_ofEdges_eq_iff]
  constructor
  · intro same
    obtain ⟨id, number, _⟩ := numbering.number e eNumbered
    refine distinct.apart _ _ id ?_ ?_
    · rw [← numbering.number_at eNumbered touchesA, number]
    · rw [← numbering.number_at fNumbered touchesB, ← same, number]
  · intro sameLabel
    rw [numbering.number_at eNumbered touchesA, numbering.number_at fNumbered touchesB, sameLabel]

/-- Numbering the groups of a neighborhood gives every edge a number, gives the nodes at its ends that
number, and gives two such nodes one number exactly when a path of edges joins them. -/
theorem partition_components (h : Neighborhood) (keepIsolated : Bool) (ids : Ids)
    (endpoints : ∀ e ∈ h.edges, e.source ∈ h.keys ∧ e.destination ∈ h.keys)
    (ungrouped : ∀ n ∈ h.nodes, n.graphId = none)
    (fits : (h.partition keepIsolated ids).2.2.groups ≤ idLimit) :
    ComponentNumbering h (h.partition keepIsolated ids).1 := by
  have partitioned := partition_spec h keepIsolated ids ungrouped
  refine ⟨partitioned.nodes, partitioned.ends, partitioned.edgeNumber, ?_, ?_, ?_⟩
  · rintro decl ⟨e, present, touches⟩
    have before : e.ends ∈ h.ends := partitioned.ends ▸ List.mem_map_of_mem present
    obtain ⟨old, oldPresent, sameEnds⟩ := List.mem_map.mp before
    obtain ⟨source, destination⟩ := endpoints old oldPresent
    rw [show old.source = e.source from congrArg Prod.fst sameEnds] at source
    rw [show old.destination = e.destination from congrArg Prod.snd sameEnds] at destination
    rw [partitioned.keys]
    rcases touches with rfl | rfl
    · exact source
    · exact destination
  · exact fun e present n among touches => partitioned.touched n among e present touches
  · rintro a amongA b amongB ⟨e, eNumbered, touchesA⟩ ⟨f, fNumbered, touchesB⟩
    rw [partitioned.touched a amongA e eNumbered touchesA,
      partitioned.touched b amongB f fNumbered touchesB]
    rw [edges_partition] at eNumbered fNumbered
    have edgesFit := Nat.le_trans (groups_numberEdges_le h keepIsolated ids) fits
    exact graphId_eq_iff edgesFit eNumbered fNumbered touchesA touchesB

/-- A seed without a group. -/
def plainNode (decl : DeclId) : Node :=
  ⟨decl, decl, "", "", "", "", "", none, 1, true, true, false, none⟩

/-- Two pairs that the last edge joins, a declaration that calls itself, and one without edges. -/
def lateMerge : Neighborhood :=
  ⟨(List.range 6).map plainNode, [⟨0, 1, none⟩, ⟨2, 3, none⟩, ⟨4, 4, none⟩, ⟨3, 1, none⟩]⟩

/-- Both pairs are one group, since an edge that comes after other groups joins them. -/
theorem partition_components_of_late_merge :
    (lateMerge.partition true ⟨6, 7⟩).1.nodes.map Node.graphId =
      [some 7, some 7, some 7, some 7, some 8, some 9] ∧
    ComponentNumbering lateMerge (lateMerge.partition true ⟨6, 7⟩).1 :=
  ⟨by decide, partition_components lateMerge true ⟨6, 7⟩ (by decide) (by decide) (by decide)⟩

end DefectGraph.Graph
