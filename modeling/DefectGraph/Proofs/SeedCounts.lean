import DefectGraph.Proofs.Extraction
import Mathlib.Algebra.Order.BigOperators.Group.List
import Mathlib.Algebra.Order.Ring.Int
import Mathlib.Data.List.Induction
import Mathlib.Order.Bounds.Basic

/-!
# The bug counts of merged seeds

Seeds for the same declaration are joined to the first of them, one after the other. A count below zero is
dropped when the next one is added, so what is left at the end is the largest sum of the last few counts.

## Main Definitions

* `IsLargestSuffixSum` - the largest sum of some last counts.
* `joinedCount` - what is left when counts are joined one after the other.
* `Overflows` - somewhere among the counts, the largest sum that ends there is beyond the largest count.
* `countsFor` - the counts that the seeds for a declaration bring.
* `SeedsJoined` - how the counts of the seeds and the nodes of a neighborhood belong together.

## Main Statements

* `IsLargestSuffixSum.concat` - what one more count does to the largest sum.
* `Merged.addSeed`, `Merged.addAll` - what one more seed, and what all of them, do to the nodes.
* `extract_joins_seeds` - the counts after extraction, and when extraction overflows.

## Design Notes

A sum that is still in bounds says nothing about the sums before it, because counts below zero may have
taken it back. The invariant of merging therefore bounds the sums over all starts of the counts.
-/

namespace DefectGraph.Graph

open DefectGraph.Source (DeclId Tree)

/-! ### Largest sums -/

/-- The number is the largest sum of some last counts, at least one of them. -/
def IsLargestSuffixSum (counts : List Int) (sum : Int) : Prop :=
  IsGreatest {s | ∃ last, last <:+ counts ∧ last ≠ [] ∧ last.sum = s} sum

namespace IsLargestSuffixSum

theorem singleton (count : Int) : IsLargestSuffixSum [count] count := by
  constructor
  · exact ⟨[count], List.suffix_rfl, by simp, by simp⟩
  · rintro s ⟨last, suffix, nonempty, rfl⟩
    rcases List.suffix_cons_iff.mp suffix with rfl | rest
    · simp
    · exact absurd (List.suffix_nil.mp rest) nonempty

/-- One more count is added to the largest sum before it, or stands alone where that is below zero. -/
theorem concat {counts : List Int} {sum : Int} (largest : IsLargestSuffixSum counts sum)
    (count : Int) : IsLargestSuffixSum (counts ++ [count]) (max sum 0 + count) := by
  obtain ⟨⟨best, suffix, -, rfl⟩, bound⟩ := largest
  constructor
  · rcases le_total best.sum 0 with low | high
    · exact ⟨[count], List.suffix_append _ _, by simp, by simp [max_eq_right low]⟩
    · exact ⟨best ++ [count], List.suffix_append_self_iff.mpr suffix, by simp,
        by simp [max_eq_left high]⟩
  · rintro s ⟨last, ends, nonempty, rfl⟩
    rcases List.suffix_concat_iff.mp ends with rfl | ⟨before, rfl, inside⟩
    · exact absurd rfl nonempty
    · have below : before.sum ≤ max best.sum 0 := by
        by_cases alone : before = []
        · rw [alone]
          exact le_max_right _ _
        · exact le_trans (bound ⟨before, inside, alone, rfl⟩) (le_max_left _ _)
      rw [List.sum_append, List.sum_singleton]
      omega

theorem ne_nil {counts : List Int} {sum : Int} (largest : IsLargestSuffixSum counts sum) :
    counts ≠ [] := by
  rintro rfl
  obtain ⟨last, suffix, nonempty, -⟩ := largest.1
  exact nonempty (List.suffix_nil.mp suffix)

end IsLargestSuffixSum

/-- The count that is left when counts are joined one after the other. -/
def joinedCount : List Int → Int
  | [] => 0
  | first :: later => later.foldl (fun sum count => max sum 0 + count) first

/-- A further count is added to what was there, unless that was negative. -/
theorem joinedCount_concat {counts : List Int} (nonempty : counts ≠ []) (count : Int) :
    joinedCount (counts ++ [count]) = max (joinedCount counts) 0 + count := by
  cases counts with
  | nil => exact absurd rfl nonempty
  | cons first later => simp [joinedCount]

/-- What is left is the largest sum of some last counts. -/
theorem isLargestSuffixSum_joinedCount {counts : List Int} (nonempty : counts ≠ []) :
    IsLargestSuffixSum counts (joinedCount counts) := by
  induction counts using List.reverseRecOn with
  | nil => exact absurd rfl nonempty
  | append_singleton counts count ih =>
    by_cases alone : counts = []
    · rw [alone]
      exact .singleton count
    · rw [joinedCount_concat alone]
      exact (ih alone).concat count

/-- What is left is not below the last count. -/
theorem le_joinedCount {least : Int} (low : least ≤ 0) {counts : List Int}
    (bounded : ∀ count ∈ counts, least ≤ count) : least ≤ joinedCount counts := by
  rcases List.eq_nil_or_concat counts with rfl | ⟨before, last, rfl⟩
  · exact low
  · have lastBounded := bounded last (by simp)
    rw [List.concat_eq_append] at *
    by_cases alone : before = []
    · rw [alone]
      exact lastBounded
    · rw [joinedCount_concat alone]
      have := le_max_right (joinedCount before) 0
      omega

/-- Counts that are not negative add up. -/
theorem joinedCount_eq_sum {counts : List Int} (nonneg : ∀ count ∈ counts, 0 ≤ count) :
    joinedCount counts = counts.sum := by
  induction counts using List.reverseRecOn with
  | nil => rfl
  | append_singleton counts count ih =>
    have before : ∀ other ∈ counts, 0 ≤ other := fun other present =>
      nonneg other (List.mem_append_left _ present)
    by_cases alone : counts = []
    · rw [alone]
      simp [joinedCount]
    · rw [joinedCount_concat alone, ih before, max_eq_left (List.sum_nonneg before),
        List.sum_append, List.sum_singleton]

/-! ### Overflow -/

/-- Somewhere among the counts, the largest sum that ends there is beyond the largest count. -/
def Overflows (counts : List Int) : Prop :=
  ∃ read sum, read <+: counts ∧ IsLargestSuffixSum read sum ∧ maxBugs < sum

/-- No start of the counts is joined to a count beyond the largest one. -/
def Contained (counts : List Int) : Prop :=
  ∀ read, read <+: counts → joinedCount read ≤ maxBugs

/-- Counts overflow when they are not contained. -/
theorem overflows_iff {counts : List Int} : Overflows counts ↔ ¬ Contained counts := by
  unfold Overflows Contained
  simp only [not_forall, not_le, exists_prop]
  constructor
  · rintro ⟨read, sum, start, largest, beyond⟩
    have same := largest.unique (isLargestSuffixSum_joinedCount largest.ne_nil)
    exact ⟨read, start, same ▸ beyond⟩
  · rintro ⟨read, start, beyond⟩
    have nonempty : read ≠ [] := by
      rintro rfl
      exact absurd beyond (by decide)
    exact ⟨read, _, start, isLargestSuffixSum_joinedCount nonempty, beyond⟩

/-- A further count is contained when the sum with it is. -/
theorem contained_concat_iff {counts : List Int} {count : Int} :
    Contained (counts ++ [count]) ↔
      Contained counts ∧ joinedCount (counts ++ [count]) ≤ maxBugs := by
  constructor
  · intro contained
    exact ⟨fun read start => contained read (start.trans (List.prefix_append _ _)),
      contained _ List.prefix_rfl⟩
  · rintro ⟨before, last⟩ read start
    rcases List.prefix_concat_iff.mp start with rfl | inside
    · exact last
    · exact before read inside

/-- Counts are contained from the start on. -/
theorem Contained.of_start {counts more : List Int} (contained : Contained more)
    (start : counts <+: more) : Contained counts :=
  fun read inside => contained read (inside.trans start)

/-- Where no count is negative, only the sum of all of them matters. -/
theorem overflows_iff_sum {counts : List Int} (nonneg : ∀ count ∈ counts, 0 ≤ count) :
    Overflows counts ↔ maxBugs < counts.sum := by
  rw [overflows_iff, ← not_le, not_iff_not]
  constructor
  · intro contained
    rw [← joinedCount_eq_sum nonneg]
    exact contained counts List.prefix_rfl
  · intro total read start
    rw [joinedCount_eq_sum fun count present => nonneg count (start.subset present)]
    exact le_trans (start.sublist.sum_le_sum nonneg) total

/-! ### The counts of seeds -/

/-- The first seed for a declaration. -/
def firstFor (seeds : List Node) (decl : DeclId) : Option Node :=
  seeds.find? fun seed => seed.decl == decl

/-- The counts that the seeds for a declaration bring: that of the first one, and those of the later ones that
are marked as seeds. -/
def countsFor (seeds : List Node) (decl : DeclId) : List Int :=
  match seeds.filter fun seed => seed.decl == decl with
  | [] => []
  | first :: later => first.bugs :: (later.filter Node.seed).map Node.bugs

theorem countsFor_ne_nil {seeds : List Node} {decl : DeclId} {first : Node}
    (found : firstFor seeds decl = some first) : countsFor seeds decl ≠ [] := by
  unfold countsFor
  split
  · rename_i missing
    rw [firstFor, ← List.head?_filter, missing] at found
    cases found
  · simp

/-- The seeds before the first one for a declaration do not count for it. -/
theorem countsFor_append_of_none {seeds : List Node} {decl : DeclId}
    (missing : firstFor seeds decl = none) (more : List Node) :
    countsFor (seeds ++ more) decl = countsFor more decl := by
  rw [firstFor, ← List.head?_filter, List.head?_eq_none_iff] at missing
  rw [countsFor, List.filter_append, missing, List.nil_append, countsFor]

/-- Behind the first seed for a declaration, those for it that are marked bring their counts. -/
theorem countsFor_append_of_some {seeds : List Node} {decl : DeclId} {first : Node}
    (found : firstFor seeds decl = some first) (more : List Node) :
    countsFor (seeds ++ more) decl = countsFor seeds decl ++
      ((more.filter fun seed => seed.decl == decl).filter Node.seed).map Node.bugs := by
  rw [firstFor, ← List.head?_filter] at found
  obtain ⟨later, split⟩ := List.head?_eq_some_iff.mp found
  rw [countsFor, countsFor, List.filter_append, split]
  simp

/-- Seeds for other declarations change nothing. -/
theorem countsFor_concat_of_ne (seeds : List Node) {seed : Node} {decl : DeclId}
    (other : decl ≠ seed.decl) :
    firstFor (seeds ++ [seed]) decl = firstFor seeds decl ∧
      countsFor (seeds ++ [seed]) decl = countsFor seeds decl := by
  have apart : (seed.decl == decl) = false := by simpa using Ne.symm other
  constructor
  · simp [firstFor, List.find?_append, apart]
  · simp [countsFor, List.filter_append, apart]

/-- Further seeds add counts at the end. -/
theorem countsFor_start (seeds more : List Node) (decl : DeclId) :
    countsFor seeds decl <+: countsFor (seeds ++ more) decl := by
  cases found : firstFor seeds decl with
  | none =>
    have empty : countsFor seeds decl = [] := by
      simpa [countsFor] using countsFor_append_of_none found []
    rw [empty]
    exact List.nil_prefix
  | some first =>
    rw [countsFor_append_of_some found]
    exact List.prefix_append _ _

/-- The counts come from seeds. -/
theorem exists_seed_of_mem_countsFor {seeds : List Node} {decl : DeclId} {count : Int}
    (present : count ∈ countsFor seeds decl) : ∃ seed ∈ seeds, seed.bugs = count := by
  unfold countsFor at present
  split at present
  · cases present
  · rename_i first later split
    have among : ∀ seed ∈ first :: later, seed ∈ seeds := by
      intro seed here
      rw [← split] at here
      exact (List.mem_filter.mp here).1
    rcases List.mem_cons.mp present with rfl | among'
    · exact ⟨first, among first List.mem_cons_self, rfl⟩
    · obtain ⟨seed, here, rfl⟩ := List.mem_map.mp among'
      exact ⟨seed, among seed (List.mem_cons_of_mem _ (List.mem_filter.mp here).1), rfl⟩

/-! ### Merging -/

/-- The count of bugs is a signed integer of 64 bits. -/
def Node.InBounds (n : Node) : Prop := minBugs ≤ n.bugs ∧ n.bugs ≤ maxBugs

instance (n : Node) : Decidable n.InBounds := inferInstanceAs (Decidable (_ ∧ _))

/-- The node with another count of bugs. -/
def Node.withBugs (n : Node) (bugs : Int) : Node := { n with bugs }

@[simp]
theorem Node.withBugs_withBugs (n : Node) (bugs other : Int) :
    (n.withBugs bugs).withBugs other = n.withBugs other := rfl

/-- The nodes of merged seeds: each declaration has the first seed for it, with the joined counts, and nothing
has overflowed on the way. -/
structure Merged (seeds : List Node) (h : Neighborhood) : Prop where
  node : ∀ decl, h.node? decl = (firstFor seeds decl).map fun first =>
    first.withBugs (joinedCount (countsFor seeds decl))
  contained : ∀ decl, Contained (countsFor seeds decl)

/-- The counts that a later seed for the same declaration brings. -/
def Node.laterCounts (n : Node) : List Int := if n.seed then [n.bugs] else []

/-- Joining a seed to a node with joined counts joins the seed's count to them, or overflows. -/
theorem Node.absorb?_joinedCount {n : Node} {counts : List Int} (nonempty : counts ≠ [])
    (joined : n.bugs = joinedCount counts) (contained : Contained counts) {other : Node}
    (low : minBugs ≤ other.bugs) :
    n.absorb? other = some (n.withBugs (joinedCount (counts ++ other.laterCounts))) ∧
        Contained (counts ++ other.laterCounts) ∨
      n.absorb? other = none ∧ ¬ Contained (counts ++ other.laterCounts) := by
  unfold Node.absorb? Node.laterCounts
  by_cases seed : other.seed = true
  · -- The sum is never too small, because what the count is added to is not negative.
    have bound : minBugs ≤ max n.bugs 0 + other.bugs := by
      have := le_max_right n.bugs 0
      omega
    rw [if_pos seed, if_pos seed, contained_concat_iff, joinedCount_concat nonempty, ← joined]
    by_cases high : max n.bugs 0 + other.bugs ≤ maxBugs
    · exact Or.inl ⟨by simp [addBugs?, bound, high, Node.withBugs], contained, high⟩
    · exact Or.inr ⟨by simp [addBugs?, high], fun fits => high fits.2⟩
  · rw [if_neg seed, if_neg seed, List.append_nil, ← joined]
    exact Or.inl ⟨rfl, contained⟩

namespace Merged

theorem empty : Merged [] .empty where
  node := fun _ => rfl
  contained := by
    intro decl read start
    cases List.prefix_nil.mp start
    decide

/-- Every declaration with a seed has a node, and no other has. -/
theorem mem_keys_iff {seeds : List Node} {h : Neighborhood} (merged : Merged seeds h) (decl : DeclId) :
    decl ∈ h.keys ↔ (firstFor seeds decl).isSome = true := by
  rw [← Decidable.not_not (p := decl ∈ h.keys), ← Neighborhood.node?_eq_none_iff, merged.node]
  cases firstFor seeds decl <;> simp

/-- One more seed matters for its own declaration only. -/
theorem concat {seeds : List Node} {h after : Neighborhood} (merged : Merged seeds h) {seed : Node}
    (own : after.node? seed.decl = (firstFor (seeds ++ [seed]) seed.decl).map fun first =>
      first.withBugs (joinedCount (countsFor (seeds ++ [seed]) seed.decl)))
    (others : ∀ decl, decl ≠ seed.decl → after.node? decl = h.node? decl)
    (contained : Contained (countsFor (seeds ++ [seed]) seed.decl)) : Merged (seeds ++ [seed]) after := by
  refine ⟨fun decl => ?_, fun decl => ?_⟩
  · by_cases here : decl = seed.decl
    · rw [here, own]
    · obtain ⟨first, counts⟩ := countsFor_concat_of_ne seeds here
      rw [others decl here, first, counts, merged.node]
  · by_cases here : decl = seed.decl
    · rw [here]
      exact contained
    · rw [(countsFor_concat_of_ne seeds here).2]
      exact merged.contained decl

/-- A seed for a new declaration gives it a node. -/
theorem putNode {seeds : List Node} {h : Neighborhood} (merged : Merged seeds h) {seed : Node}
    (fresh : firstFor seeds seed.decl = none) (high : seed.bugs ≤ maxBugs) :
    Merged (seeds ++ [seed]) (h.putNode seed) := by
  have missing : seed.decl ∉ h.keys := by simp [merged.mem_keys_iff, fresh]
  have put := Neighborhood.node?_putNode_of_notMem h seed missing
  have first : firstFor (seeds ++ [seed]) seed.decl = some seed := by
    unfold firstFor at fresh ⊢
    rw [List.find?_append, fresh]
    simp
  have counts : countsFor (seeds ++ [seed]) seed.decl = [seed.bugs] := by
    rw [countsFor_append_of_none fresh]
    simp [countsFor]
  refine merged.concat ?_ (fun decl other => by rw [put, if_neg other]) ?_
  · rw [put, if_pos rfl, first, counts]
    rfl
  · rw [counts]
    show Contained ([] ++ [seed.bugs])
    exact contained_concat_iff.mpr ⟨empty.contained seed.decl, high⟩

/-- A seed for a declaration that has a node is joined to it, or overflows. -/
theorem absorb {seeds : List Node} {h : Neighborhood} (merged : Merged seeds h) {seed first : Node}
    (found : firstFor seeds seed.decl = some first) (low : minBugs ≤ seed.bugs) :
    (∃ joined, h.absorb? seed = some joined ∧ Merged (seeds ++ [seed]) joined) ∨
      h.absorb? seed = none ∧ ¬ Contained (countsFor (seeds ++ [seed]) seed.decl) := by
  have counts : countsFor (seeds ++ [seed]) seed.decl =
      countsFor seeds seed.decl ++ seed.laterCounts := by
    rw [countsFor_append_of_some found]
    by_cases isSeed : seed.seed = true <;> simp [Node.laterCounts, isSeed]
  have here : first.decl = seed.decl := by simpa using List.find?_some found
  have still : firstFor (seeds ++ [seed]) seed.decl = some first := by
    unfold firstFor at found ⊢
    rw [List.find?_append, found, Option.some_or]
  have node := merged.node seed.decl
  rw [found, Option.map_some] at node
  unfold Neighborhood.absorb?
  rw [node, Option.bind_eq_bind, Option.bind_some]
  rcases Node.absorb?_joinedCount (n := first.withBugs (joinedCount (countsFor seeds seed.decl)))
    (countsFor_ne_nil found) rfl (merged.contained seed.decl) low with
    ⟨absorbed, contained⟩ | ⟨overflow, beyond⟩
  · rw [absorbed, Node.withBugs_withBugs, ← counts]
    have update := h.node?_updateNode seed.decl
    refine Or.inl ⟨_, rfl, merged.concat ?_ ?_ (counts ▸ contained)⟩
    · rw [update _ _ (by exact fun _ _ => here), if_pos rfl, node, still]
      rfl
    · intro decl other
      rw [update _ _ (by exact fun _ _ => here), if_neg other]
  · exact Or.inr ⟨by rw [overflow]; rfl, counts ▸ beyond⟩

/-- One more seed is merged, or overflows. -/
theorem addSeed {seeds : List Node} {state : Neighborhood × List Event} (merged : Merged seeds state.1)
    {seed : Node} (bounded : seed.InBounds) :
    (∃ after, addSeed? state seed = some after ∧ Merged (seeds ++ [seed]) after.1) ∨
      addSeed? state seed = none ∧ ¬ Contained (countsFor (seeds ++ [seed]) seed.decl) := by
  have known := merged.mem_keys_iff seed.decl
  rw [← Neighborhood.hasNode_iff] at known
  unfold addSeed?
  cases found : firstFor seeds seed.decl with
  | none =>
    have missing : ¬ state.1.hasNode seed.decl = true := by simp [known, found]
    rw [if_neg missing]
    exact Or.inl ⟨_, rfl, merged.putNode found bounded.2⟩
  | some first =>
    have present : state.1.hasNode seed.decl = true := by simp [known, found]
    rw [if_pos present]
    rcases merged.absorb found bounded.1 with ⟨joined, absorbed, after⟩ | ⟨overflow, beyond⟩
    · exact Or.inl ⟨_, by rw [absorbed, Option.map_some], after⟩
    · exact Or.inr ⟨by rw [overflow, Option.map_none], beyond⟩

/-- All seeds are merged, or those for one declaration overflow. -/
theorem addAll {done : List Node} {state : Neighborhood × List Event} (merged : Merged done state.1)
    (seeds : List Node) (bounded : ∀ seed ∈ seeds, seed.InBounds) :
    (∃ after, seeds.foldlM addSeed? state = some after ∧ Merged (done ++ seeds) after.1) ∨
      seeds.foldlM addSeed? state = none ∧ ∃ decl, ¬ Contained (countsFor (done ++ seeds) decl) := by
  induction seeds generalizing done state with
  | nil => exact Or.inl ⟨state, rfl, by simpa using merged⟩
  | cons seed seeds ih =>
    obtain ⟨first, others⟩ := List.forall_mem_cons.mp bounded
    rw [List.foldlM_cons, List.append_cons]
    rcases merged.addSeed first with ⟨next, added, merges⟩ | ⟨overflow, beyond⟩
    · rw [added, Option.bind_eq_bind, Option.bind_some]
      exact ih merges others
    · rw [overflow]
      -- What has overflowed once stays so, whatever the other seeds bring.
      exact Or.inr ⟨rfl, seed.decl, fun contained =>
        beyond (contained.of_start (countsFor_start _ _ _))⟩

end Merged

/-- Either all seeds are merged, or the counts for some declaration overflow. -/
theorem addSeeds?_merged {seeds : List Node} (bounded : ∀ seed ∈ seeds, seed.InBounds) :
    (∃ hood events, addSeeds? seeds = some (hood, events) ∧ Merged seeds hood) ∨
      addSeeds? seeds = none ∧ ∃ decl, Overflows (countsFor seeds decl) := by
  have start : Merged [] ((Neighborhood.empty, []) : Neighborhood × List Event).1 := .empty
  simp only [overflows_iff]
  rcases start.addAll seeds bounded with ⟨⟨hood, events⟩, added, merged⟩ | overflow
  · exact Or.inl ⟨hood, events, added, merged⟩
  · exact Or.inr overflow

/-! ### After extraction -/

/-- Exploring changes nothing but the flags of the nodes that are there. -/
theorem ExploreInvariant.nodesStay (template : Template) (tree : Tree) (h : Neighborhood) :
    ExploreInvariant template tree fun p =>
      (∀ decl ∈ h.keys, decl ∈ p.hood.keys) ∧ ∀ n ∈ p.hood.nodes, ∀ old, h.node? n.decl = some old →
        n = { old with explicitSuper := n.explicitSuper, valid := n.valid } := by
  apply ExploreInvariant.nodesApart
  · intro decl id other _ old found
    have missing : h.node? (template.node tree decl id).decl = none :=
      (h.node?_eq_none_iff decl).mpr other
    rw [missing] at found
    cases found
  · intro n explicitSuper stays old found
    rw [stays old found]

/-- A node that is there before exploring is there afterwards, but for its flags. -/
theorem exploreEach_node? (template : Template) (tree : Tree) {p : Progress} (starts : List DeclId)
    (wellFormed : p.hood.WellFormed) (nodes : ∀ decl ∈ starts, decl ∈ p.hood.keys) {decl : DeclId}
    {old : Node} (found : p.hood.node? decl = some old) :
    ∃ n, (exploreEach template tree p starts).hood.node? decl = some n ∧
      n = { old with explicitSuper := n.explicitSuper, valid := n.valid } := by
  have start : ∀ n ∈ p.hood.nodes, ∀ old, p.hood.node? n.decl = some old →
      n = { old with explicitSuper := n.explicitSuper, valid := n.valid } := by
    intro n present old found
    have same : old = n := List.inj_on_of_nodup_map wellFormed.keysNodup
      (List.mem_of_find?_eq_some found) present (by simpa using List.find?_some found)
    rw [same]
  obtain ⟨keys, stay⟩ := (ExploreInvariant.nodesStay template tree p.hood).exploreEach p starts
    ⟨fun _ key => key, start⟩ nodes
  have key : decl ∈ p.hood.keys := by
    by_contra missing
    rw [(p.hood.node?_eq_none_iff decl).mpr missing] at found
    cases found
  obtain ⟨n, present, rfl, foundAfter⟩ := Neighborhood.node?_of_mem_keys (keys decl key)
  exact ⟨n, foundAfter, stay n present old found⟩

/-- What becomes of the counts of seeds in a neighborhood; there is none when they overflow. -/
structure SeedsJoined (seeds : List Node) (result : Option Neighborhood) : Prop where
  /-- There is an overflow exactly when the largest sum that ends somewhere among the counts for a
  declaration is beyond the largest count. -/
  overflow : result = none ↔ ∃ decl, Overflows (countsFor seeds decl)
  /-- For counts that are not negative this means their total. -/
  overflowOfTotal : ∀ decl, (∀ count ∈ countsFor seeds decl, 0 ≤ count) →
    (Overflows (countsFor seeds decl) ↔ maxBugs < (countsFor seeds decl).sum)
  /-- No sum is below the least count. -/
  noUnderflow : ∀ decl read sum, read <+: countsFor seeds decl → IsLargestSuffixSum read sum →
    minBugs ≤ sum
  /-- A declaration with seeds has the first one for a node, with the largest sum of some last counts, which is
  the total for counts that are not negative. Only the flags that exploring sets may change. -/
  node : ∀ hood, result = some hood → ∀ decl first, firstFor seeds decl = some first →
    ∃ n, hood.node? decl = some n ∧
      n = { first with bugs := n.bugs, explicitSuper := n.explicitSuper, valid := n.valid } ∧
      IsLargestSuffixSum (countsFor seeds decl) n.bugs ∧
      ((∀ count ∈ countsFor seeds decl, 0 ≤ count) → n.bugs = (countsFor seeds decl).sum)

/-- Extraction joins the counts of seeds for the same declaration to the largest sum of some last counts, and
fails exactly when such a sum overflows on the way. -/
theorem extract_joins_seeds (template : Template) (tree : Tree) (seeds : List Node) (ids : Ids)
    (bounded : ∀ seed ∈ seeds, seed.InBounds) :
    SeedsJoined seeds ((extract? template tree seeds ids).map fun result => result.1) where
  overflow := by
    rcases addSeeds?_merged bounded with ⟨hood, events, added, merged⟩ | ⟨failed, overflow⟩
    · rw [extract?_eq_some template tree ids added, Option.map_some]
      refine iff_of_false (by simp) ?_
      rintro ⟨decl, overflows⟩
      exact overflows_iff.mp overflows (merged.contained decl)
    · exact iff_of_true (by simp [extract?, failed]) overflow
  overflowOfTotal := fun _ => overflows_iff_sum
  noUnderflow := by
    intro decl read sum start largest
    rw [largest.unique (isLargestSuffixSum_joinedCount largest.ne_nil)]
    refine le_joinedCount (by decide) fun count present => ?_
    obtain ⟨seed, among, rfl⟩ := exists_seed_of_mem_countsFor (start.subset present)
    exact (bounded seed among).1
  node := by
    intro hood extracted decl first found
    rcases addSeeds?_merged bounded with ⟨start, events, added, merged⟩ | ⟨failed, -⟩
    · have seeded := Seeded.ofSeeds added
      rw [extract?_eq_some template tree ids added, Option.map_some] at extracted
      cases extracted
      have node := merged.node decl
      rw [found, Option.map_some] at node
      obtain ⟨n, after, kept⟩ := exploreEach_node? template tree (p := .start start ids events)
        (seeds.map Node.decl) seeded.wellFormed (fun decl => (seeded.keys decl).mpr) node
      have bugs : n.bugs = joinedCount (countsFor seeds decl) := by rw [kept]; rfl
      refine ⟨n, after, ?_, ?_, ?_⟩
      · rw [kept]
        rfl
      · rw [bugs]
        exact isLargestSuffixSum_joinedCount (countsFor_ne_nil found)
      · intro nonneg
        rw [bugs, joinedCount_eq_sum nonneg]
    · simp [extract?, failed] at extracted

/-- The counts -1, 5, -7 and 3 for one declaration are joined to 3, and that of a later node that is not marked
as a seed is left out. Where a sum has overflowed, a count below zero behind it does not help. -/
theorem extract_joins_seeds_of_negative_counts :
    ∃ tree, Tree.ofSource? "class A { void f() { g(); } void g() {} }" = some tree ∧
      let template : Template := ⟨"p", "h", "p/classes/k.java", true⟩
      let node (decl : DeclId) (id : Nat) (bugs : Int) (seed : Bool) : Node :=
        { template.node tree decl id with bugs, seed }
      let seeds := [node 0 0 (-1) false, node 0 1 5 true, node 1 2 maxBugs true, node 0 3 (-7) true,
        node 0 4 4 false, node 0 5 3 true]
      let beyond := [node 0 0 maxBugs true, node 0 1 1 true, node 0 2 (-1) true]
      (∀ seed ∈ seeds ++ beyond, seed.InBounds) ∧
      (∃ hood events after n, extract? template tree seeds ⟨6, 0⟩ = some (hood, events, after) ∧
        hood.node? 0 = some n ∧ n.id = 0 ∧ n.bugs = 3 ∧ IsLargestSuffixSum [-1, 5, -7, 3] n.bugs) ∧
      extract? template tree beyond ⟨3, 0⟩ = none := by
  let tree := (Tree.ofSource? "class A { void f() { g(); } void g() {} }").get (by decide +kernel)
  refine ⟨tree, (Option.some_get _).symm, ?_⟩
  intro template node seeds beyond
  have bounded : ∀ seed ∈ seeds ++ beyond, seed.InBounds := by decide
  have joined := extract_joins_seeds template tree seeds ⟨6, 0⟩ fun seed here =>
    bounded seed (List.mem_append_left _ here)
  have overflowed := extract_joins_seeds template tree beyond ⟨3, 0⟩ fun seed here =>
    bounded seed (List.mem_append_right _ here)
  have merges : (addSeeds? seeds).isSome = true := by decide
  obtain ⟨⟨hood, events⟩, merged⟩ := Option.isSome_iff_exists.mp merges
  have extracted := extract?_eq_some template tree ⟨6, 0⟩ merged
  obtain ⟨n, found, same, largest, -⟩ :=
    joined.node _ (by rw [extracted]; rfl) 0 (node 0 0 (-1) false) rfl
  have bugs : n.bugs = 3 := largest.unique (isLargestSuffixSum_joinedCount (by decide))
  refine ⟨bounded, ⟨_, _, _, n, extracted, found, by rw [same]; rfl, bugs, largest⟩, ?_⟩
  have failed := overflowed.overflow.mpr ⟨0, [maxBugs, 1], max maxBugs 0 + 1, ⟨[-1], rfl⟩,
    (IsLargestSuffixSum.singleton maxBugs).concat 1, by decide⟩
  simpa using failed

end DefectGraph.Graph
