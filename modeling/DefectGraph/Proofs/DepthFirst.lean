import DefectGraph.Proofs.Extraction
import Mathlib.Data.List.Basic

/-!
# Exploring is depth-first search

Exploring keeps a stack, from which it skips what has been visited in the meantime. Depth-first search is
the same without a stack: it visits a declaration and then searches from each of its targets in turn.

## Main Definitions

* `Progress.descend` - depth-first search from a declaration, by recursion.
* `Progress.Agrees` - two searches have come equally far.

## Main Statements

* `descend_eq` - the recursion, without what makes it end.
* `explore_agrees` - exploring a stack searches from what is on it, one after the other.
* `extract_eq_descend` - extraction merges the seeds and searches from each of them.

## Design Notes

The recursion ends because every visit leaves fewer declarations to visit. That a search forgets no visit
is needed for this, so it is a part of the result.
-/

namespace DefectGraph.Graph

open DefectGraph.Source

/-! ### What is left to visit -/

/-- A number without a declaration has no references. -/
theorem scan_of_undeclared {tree : Tree} {decl : DeclId} (undeclared : ¬ decl < tree.decls.length) :
    scan tree decl = ⟨[], false, false, []⟩ := by
  have missing : tree.decl? decl = none := List.getElem?_eq_none (Nat.not_lt.mp undeclared)
  simp [scan, missing]

/-- With more visits, no more is left to visit. -/
theorem length_unvisited_le (tree : Tree) {visited more : List DeclId} (fewer : visited ⊆ more) :
    (unvisited tree more).length ≤ (unvisited tree visited).length := by
  refine (List.monotone_filter_right _ fun d unseen => ?_).length_le
  simp only [Bool.not_eq_true', List.contains_eq_mem, decide_eq_false_iff_not] at unseen ⊢
  exact fun seen => unseen (fewer seen)

/-- Each new visit leaves less to visit. -/
theorem length_unvisited_lt (tree : Tree) {visited : List DeclId} {decl : DeclId}
    (declared : decl < tree.decls.length) (fresh : decl ∉ visited) :
    (unvisited tree (decl :: visited)).length < (unvisited tree visited).length := by
  have present : decl ∈ unvisited tree visited :=
    List.mem_filter.mpr ⟨List.mem_range.mpr declared, by simpa using fresh⟩
  rw [unvisited_cons]
  exact List.length_filter_lt_length_iff_exists.mpr ⟨decl, present, by simp⟩

/-- Only the declaration itself is visited while its targets are added. -/
theorem visited_addTargets (template : Template) (tree : Tree) (p : Progress) (decl : DeclId) :
    ((scan tree decl).targets.foldl (Progress.addTarget template tree decl)
      (p.mark tree decl)).visited = decl :: p.visited :=
  visit_visited template tree p decl

/-! ### Depth-first search -/

/-- A progress that forgets no visit. -/
abbrev Further (p : Progress) : Type := { q : Progress // p.visited ⊆ q.visited }

mutual

/-- Searches depth first from a declaration. -/
def descendFurther (template : Template) (tree : Tree) (p : Progress) (decl : DeclId) : Further p :=
  if decl ∈ p.visited then ⟨p, List.Subset.refl _⟩
  else
    let s := scan tree decl
    let q := s.targets.foldl (Progress.addTarget template tree decl) (p.mark tree decl)
    have kept : p.visited ⊆ q.visited := by
      rw [visited_addTargets]
      exact List.subset_cons_self _ _
    if s.invalid then ⟨q, kept⟩
    else
      let r := descendEach template tree q s.targets
      ⟨r.1, List.Subset.trans kept r.2⟩
termination_by ((unvisited tree p.visited).length, 1)
decreasing_by
  rw [visited_addTargets]
  by_cases declared : decl < tree.decls.length
  · exact Prod.Lex.left _ _ (length_unvisited_lt tree declared ‹_›)
  · rw [scan_of_undeclared declared]
    exact Prod.Lex.right' _ (length_unvisited_le tree (List.subset_cons_self _ _)) Nat.one_pos

/-- Searches depth first from one declaration after the other. -/
def descendEach (template : Template) (tree : Tree) (p : Progress) : List DeclId → Further p
  | [] => ⟨p, List.Subset.refl _⟩
  | decl :: rest =>
    let q := descendFurther template tree p decl
    let r := descendEach template tree q.1 rest
    ⟨r.1, List.Subset.trans q.2 r.2⟩
termination_by decls => ((unvisited tree p.visited).length, 2 * decls.length)
decreasing_by
  · exact Prod.Lex.right _ (by rw [List.length_cons]; omega)
  · exact Prod.Lex.right' _ (length_unvisited_le tree q.2) (by rw [List.length_cons]; omega)

end

/-- The progress after a depth-first search from a declaration. -/
def Progress.descend (template : Template) (tree : Tree) (p : Progress) (decl : DeclId) : Progress :=
  (descendFurther template tree p decl).1

theorem descendEach_eq_foldl (template : Template) (tree : Tree) (p : Progress) (decls : List DeclId) :
    (descendEach template tree p decls).1 = decls.foldl (Progress.descend template tree) p := by
  induction decls generalizing p with
  | nil => rw [descendEach, List.foldl_nil]
  | cons decl rest ih =>
    rw [descendEach, List.foldl_cons]
    exact ih _

/-- What is visited is not searched again. Otherwise the declaration is marked, its targets get nodes and
edges, and the search goes on from each of them in turn, unless the declaration breaks off. -/
theorem descend_eq (template : Template) (tree : Tree) (p : Progress) (decl : DeclId) :
    p.descend template tree decl =
      if decl ∈ p.visited then p
      else
        let s := scan tree decl
        let q := s.targets.foldl (Progress.addTarget template tree decl) (p.mark tree decl)
        if s.invalid then q else s.targets.foldl (Progress.descend template tree) q := by
  rw [Progress.descend, descendFurther]
  split
  · rfl
  · dsimp only
    split
    · rfl
    · exact descendEach_eq_foldl template tree _ _

/-- A declaration is not descended into twice. -/
theorem descend_of_mem (template : Template) (tree : Tree) {p : Progress} {decl : DeclId}
    (seen : decl ∈ p.visited) : p.descend template tree decl = p := by
  rw [descend_eq, if_pos seen]

/-- A new declaration is visited, and then its successors are descended into in order. -/
theorem descend_of_notMem (template : Template) (tree : Tree) {p : Progress} {decl : DeclId}
    (fresh : decl ∉ p.visited) :
    p.descend template tree decl =
      (successors tree decl).foldl (Progress.descend template tree) (p.visit template tree decl) := by
  rw [descend_eq, if_neg fresh, visit_eq, successors]
  dsimp only
  split
  · rfl
  · rfl

/-- A search forgets no visit. -/
theorem visited_descend (template : Template) (tree : Tree) (p : Progress) (decl : DeclId) :
    p.visited ⊆ (p.descend template tree decl).visited :=
  (descendFurther template tree p decl).2

/-- What is visited can be left out of the declarations to search from. -/
theorem foldl_descend_filter (template : Template) (tree : Tree) (decls : List DeclId)
    (keep : DeclId → Bool) {p : Progress}
    (left : ∀ decl ∈ decls, keep decl = false → decl ∈ p.visited) :
    (decls.filter keep).foldl (Progress.descend template tree) p =
      decls.foldl (Progress.descend template tree) p := by
  induction decls generalizing p with
  | nil => rfl
  | cons decl rest ih =>
    have later : ∀ other ∈ rest, keep other = false →
        other ∈ (p.descend template tree decl).visited := fun other among dropped =>
      visited_descend template tree p decl (left other (List.mem_cons_of_mem _ among) dropped)
    cases kept : keep decl with
    | true =>
      rw [List.filter_cons_of_pos kept, List.foldl_cons, List.foldl_cons]
      exact ih later
    | false =>
      have same := descend_of_mem template tree (left decl List.mem_cons_self kept)
      rw [List.filter_cons_of_neg (by simp [kept]), List.foldl_cons, same]
      exact ih (same ▸ later)

/-! ### Exploring -/

/-- Two searches have come equally far. What they have visited is compared among declarations only. -/
structure Progress.Agrees (tree : Tree) (p q : Progress) : Prop where
  hood : p.hood = q.hood
  ids : p.ids = q.ids
  events : p.events = q.events
  visited : ∀ decl < tree.decls.length, decl ∈ p.visited ↔ decl ∈ q.visited

namespace Progress.Agrees

variable {tree : Tree} {p q : Progress}

theorem refl (tree : Tree) (p : Progress) : p.Agrees tree p := ⟨rfl, rfl, rfl, fun _ _ => Iff.rfl⟩

theorem trans {r : Progress} (first : p.Agrees tree q) (second : q.Agrees tree r) : p.Agrees tree r :=
  ⟨first.hood.trans second.hood, first.ids.trans second.ids, first.events.trans second.events,
    fun decl declared => (first.visited decl declared).trans (second.visited decl declared)⟩

/-- Adding a target keeps progress in agreement. -/
theorem addTarget (template : Template) (source target : DeclId) (agrees : p.Agrees tree q) :
    (p.addTarget template tree source target).Agrees tree (q.addTarget template tree source target) := by
  obtain ⟨hood, visited, ids, events⟩ := p
  obtain ⟨_, otherVisited, _, _⟩ := q
  obtain ⟨rfl, rfl, rfl, same⟩ := agrees
  unfold Progress.addTarget
  split
  · exact ⟨rfl, rfl, rfl, same⟩
  · exact ⟨rfl, rfl, rfl, same⟩

/-- So does adding several. -/
theorem addTargets (template : Template) (source : DeclId) (targets : List DeclId)
    (agrees : p.Agrees tree q) :
    (targets.foldl (Progress.addTarget template tree source) p).Agrees tree
      (targets.foldl (Progress.addTarget template tree source) q) := by
  induction targets generalizing p q with
  | nil => exact agrees
  | cons target rest ih => exact ih (agrees.addTarget template source target)

/-- So does noting what a declaration says of itself. -/
theorem mark (decl : DeclId) (agrees : p.Agrees tree q) :
    (p.mark tree decl).Agrees tree (q.mark tree decl) where
  hood := by rw [Progress.mark, Progress.mark, agrees.hood]
  ids := agrees.ids
  events := by rw [Progress.mark, Progress.mark, agrees.events]
  visited := by
    intro other declared
    simp only [Progress.mark, List.mem_cons, agrees.visited other declared]

/-- So does a whole visit. -/
theorem visit (template : Template) (decl : DeclId) (agrees : p.Agrees tree q) :
    (p.visit template tree decl).Agrees tree (q.visit template tree decl) :=
  (agrees.mark decl).addTargets template decl _

/-- A search from a number without a declaration finds nothing. -/
theorem descend (template : Template) (q : Progress) {decl : DeclId}
    (undeclared : ¬ decl < tree.decls.length) : q.Agrees tree (q.descend template tree decl) := by
  rw [descend_eq]
  split
  · exact refl tree q
  · simp only [scan_of_undeclared undeclared, List.foldl_nil]
    refine ⟨?_, rfl, ?_, fun other declared => ?_⟩
    · simp [Progress.mark, scan_of_undeclared undeclared, Neighborhood.updateNode]
    · simp [Progress.mark, scan_of_undeclared undeclared]
    · have different : other ≠ decl := fun same => undeclared (same ▸ declared)
      simp [Progress.mark, different]

end Progress.Agrees

/-- What a declaration leads to is declared. -/
theorem declared_of_mem_successors {tree : Tree} {decl target : DeclId}
    (successor : target ∈ successors tree decl) : target < tree.decls.length := by
  obtain ⟨_, found, _⟩ := ((mem_successors_iff tree decl target).mp successor).2.callable
  exact tree.lt_of_decl? found

/-- Exploring a stack searches from what is on it, one after the other. -/
theorem explore_agrees (template : Template) (tree : Tree) (p : Progress) (stack : List DeclId)
    {q : Progress} (agrees : p.Agrees tree q) :
    (explore template tree p stack).Agrees tree (stack.foldl (Progress.descend template tree) q) := by
  fun_induction explore template tree p stack generalizing q with
  | case1 p => exact agrees
  | case2 p decl rest unseen after next =>
    rename_i ih
    obtain ⟨fresh, declared⟩ := unseen
    have fresh : decl ∉ q.visited := by
      rw [← agrees.visited decl declared]
      simpa using fresh
    have visited := agrees.visit template decl
    -- What was not pushed has been visited, so the search from it would end at once.
    have pushed : next.foldl (Progress.descend template tree) (q.visit template tree decl) =
        (successors tree decl).foldl (Progress.descend template tree) (q.visit template tree decl) := by
      refine foldl_descend_filter template tree _ _ fun target successor dropped => ?_
      rw [← visited.visited target (declared_of_mem_successors successor)]
      simpa [after, or_iff_not_imp_left] using dropped
    rw [List.foldl_cons, descend_of_notMem template tree fresh, ← pushed, ← List.foldl_append]
    exact ih visited
  | case3 p decl rest skipped ih =>
    rw [List.foldl_cons]
    by_cases declared : decl < tree.decls.length
    · have seen : decl ∈ q.visited := by
        rw [← agrees.visited decl declared]
        simpa [declared] using skipped
      rw [descend_of_mem template tree seen]
      exact ih agrees
    · exact ih (agrees.trans (.descend template q declared))

/-- Exploring with a stack agrees with descending recursively, from each start in turn. -/
theorem exploreEach_agrees (template : Template) (tree : Tree) (starts : List DeclId) {p q : Progress}
    (agrees : p.Agrees tree q) :
    (exploreEach template tree p starts).Agrees tree
      (starts.foldl (Progress.descend template tree) q) := by
  induction starts generalizing p q with
  | nil => exact agrees
  | cons start rest ih => exact ih (explore_agrees template tree p [start] agrees)

/-! ### Extraction -/

/-- Extraction merges the seeds and searches depth first from each of them in turn: it gives the same
nodes and edges in the same order, reports the same and draws the same numbers, and overflows in the same
case. -/
theorem extract_eq_descend (template : Template) (tree : Tree) (seeds : List Node) (ids : Ids) :
    extract? template tree seeds ids =
      (addSeeds? seeds).map fun (hood, events) =>
        let p := (seeds.map Node.decl).foldl (Progress.descend template tree)
          (.start hood ids events)
        (p.hood, p.events, p.ids) := by
  cases merged : addSeeds? seeds with
  | none => simp [extract?, merged]
  | some state =>
    have agrees := exploreEach_agrees template tree (seeds.map Node.decl)
      (.refl tree (.start state.1 ids state.2))
    rw [extract?_eq_some template tree ids merged]
    simp only [Option.map_some, agrees.hood, agrees.events, agrees.ids]

end DefectGraph.Graph
