import DefectGraph.Task
import Mathlib.Data.List.Basic

/-!
# Tasks are a stable partition of the records

Records are filed one after the other, each with the task of its source file. Nothing is lost on the way,
and nothing changes its order.

## Main Definitions

* `Task.Partitions` - tasks that hold the records of each source file, in the order of the records.

## Main Statements

* `Task.Partitions.file` - filing one more record.
* `Task.group_partitions` - the tasks of records are a stable partition of them.

## Design Notes

Tasks remember no places, so their order is stated through the list of records: of two tasks, the one whose
source file is met first comes first. Both ways to file a record, with the task of its source file or with a
new task at the end, keep every field of the invariant, and `Task.group` is the fold of that step.
-/

namespace DefectGraph.Task

/-- Tasks that hold the records: one for each source file, ordered by the first record about it, with
exactly the records about the source file in their order. -/
structure Partitions (records : List BugRecord) (tasks : List Task) : Prop where
  distinct : (tasks.map Task.source).Nodup
  /-- The places of the first records about the source files of the tasks rise. -/
  ordered : (tasks.map fun t => (records.map BugRecord.source).idxOf t.source).Pairwise (· < ·)
  exact : ∀ t ∈ tasks, t.records = records.filter fun r => r.source == t.source
  nonempty : ∀ t ∈ tasks, t.records ≠ []
  complete : (tasks.flatMap Task.records).Perm records

@[simp]
theorem source_add (r : BugRecord) (t : Task) : (add r t).source = t.source := by
  unfold add
  split <;> rfl

/-- A record goes to the task of its source. -/
@[simp]
theorem records_add (r : BugRecord) (t : Task) :
    (add r t).records = t.records ++ if r.source == t.source then [r] else [] := by
  unfold add
  by_cases same : t.source = r.source
  · simp [same]
  · simp [same, Ne.symm same]

/-- A record of a known source adds to its task. -/
theorem file_of_known {tasks : List Task} {r : BugRecord} (known : r.source ∈ tasks.map Task.source) :
    file tasks r = tasks.map (add r) := by
  refine if_pos (List.any_eq_true.mpr ?_)
  obtain ⟨t, present, same⟩ := List.mem_map.mp known
  exact ⟨t, present, beq_iff_eq.mpr same⟩

/-- A record of a new source makes a task, the last one. -/
theorem file_of_new {tasks : List Task} {r : BugRecord} (new : r.source ∉ tasks.map Task.source) :
    file tasks r = tasks ++ [⟨r.source, [r]⟩] := by
  refine if_neg fun known => new ?_
  obtain ⟨t, present, same⟩ := List.any_eq_true.mp known
  exact List.mem_map.mpr ⟨t, present, beq_iff_eq.mp same⟩

/-- A record that is filed with a task is filed with one only. -/
theorem flatMap_records_add {tasks : List Task} {r : BugRecord} (distinct : (tasks.map Task.source).Nodup)
    (known : r.source ∈ tasks.map Task.source) :
    ((tasks.map (add r)).flatMap Task.records).Perm (r :: tasks.flatMap Task.records) := by
  induction tasks with
  | nil => cases known
  | cons t rest ih =>
    rw [List.map_cons, List.nodup_cons] at distinct
    rw [List.map_cons, List.flatMap_cons, List.flatMap_cons, records_add]
    by_cases same : r.source = t.source
    · have others : rest.map (add r) = rest := by
        refine (List.map_congr_left fun other among => ?_).trans (List.map_id rest)
        have apart : other.source ≠ r.source := fun equal =>
          distinct.1 (List.mem_map.mpr ⟨other, among, equal.trans same⟩)
        simp [add, apart]
      rw [if_pos (by simpa using same), others, List.append_assoc]
      exact List.perm_middle
    · have later : r.source ∈ rest.map Task.source := by
        rw [List.map_cons] at known
        exact (List.mem_cons.mp known).resolve_left same
      rw [if_neg (by simpa using same), List.append_nil]
      exact ((ih distinct.2 later).append_left t.records).trans List.perm_middle

namespace Partitions

variable {records : List BugRecord} {tasks : List Task}

theorem nil : Partitions [] [] :=
  ⟨List.nodup_nil, List.Pairwise.nil, by simp, by simp, List.Perm.nil⟩

/-- A source file has a task when it has a record. -/
theorem mem_sources_iff (parts : Partitions records tasks) (source : SourceVersion) :
    source ∈ tasks.map Task.source ↔ source ∈ records.map BugRecord.source := by
  constructor
  · intro known
    obtain ⟨t, present, rfl⟩ := List.mem_map.mp known
    obtain ⟨r, first⟩ := List.exists_mem_of_ne_nil _ (parts.nonempty t present)
    rw [parts.exact t present, List.mem_filter] at first
    exact List.mem_map.mpr ⟨r, first.1, beq_iff_eq.mp first.2⟩
  · intro known
    obtain ⟨r, present, rfl⟩ := List.mem_map.mp known
    obtain ⟨t, among, filed⟩ := List.mem_flatMap.mp (parts.complete.mem_iff.mpr present)
    rw [parts.exact t among, List.mem_filter] at filed
    exact List.mem_map.mpr ⟨t, among, (beq_iff_eq.mp filed.2).symm⟩

/-- A record more does not move the first record about a source file that has a task. -/
theorem places_concat (parts : Partitions records tasks) (r : BugRecord) :
    (tasks.map fun t => ((records ++ [r]).map BugRecord.source).idxOf t.source) =
      tasks.map fun t => (records.map BugRecord.source).idxOf t.source := by
  refine List.map_congr_left fun t present => ?_
  rw [List.map_append]
  refine List.idxOf_append_of_mem ?_
  exact (parts.mem_sources_iff t.source).mp (List.mem_map_of_mem present)

/-- One more record about a source file that has a task. -/
theorem addKnown (parts : Partitions records tasks) {r : BugRecord}
    (known : r.source ∈ tasks.map Task.source) : Partitions (records ++ [r]) (tasks.map (add r)) where
  distinct := by
    rw [List.map_map]
    refine List.map_congr_left (fun t _ => source_add r t) ▸ ?_
    exact parts.distinct
  ordered := by
    rw [List.map_map]
    have same : ((fun t => ((records ++ [r]).map BugRecord.source).idxOf t.source) ∘ add r) =
        fun t => ((records ++ [r]).map BugRecord.source).idxOf t.source := by
      funext t
      rw [Function.comp_apply, source_add]
    rw [same, parts.places_concat r]
    exact parts.ordered
  exact := by
    intro t' present
    obtain ⟨t, among, rfl⟩ := List.mem_map.mp present
    rw [records_add, source_add, parts.exact t among, List.filter_append]
    simp [List.filter_cons]
  nonempty := by
    intro t' present
    obtain ⟨t, among, rfl⟩ := List.mem_map.mp present
    rw [records_add]
    exact List.append_ne_nil_of_left_ne_nil (parts.nonempty t among) _
  complete := by
    refine (flatMap_records_add parts.distinct known).trans ?_
    exact (parts.complete.cons r).trans (List.perm_append_singleton r records).symm

/-- The first record about a source file. -/
theorem addNew (parts : Partitions records tasks) {r : BugRecord}
    (new : r.source ∉ tasks.map Task.source) :
    Partitions (records ++ [r]) (tasks ++ [⟨r.source, [r]⟩]) := by
  have unmet : r.source ∉ records.map BugRecord.source := fun met =>
    new ((parts.mem_sources_iff r.source).mpr met)
  refine ⟨?_, ?_, ?_, ?_, ?_⟩
  · rw [List.map_append]
    refine List.nodup_append.mpr ⟨parts.distinct, List.pairwise_singleton _ _, ?_⟩
    rintro source present _ here rfl
    rw [List.mem_singleton.mp here] at present
    exact new present
  · rw [List.map_append, parts.places_concat r]
    refine List.pairwise_append.mpr ⟨parts.ordered, List.pairwise_singleton _ _, ?_⟩
    -- The new task is about the last record, and all others have an earlier one.
    intro place among last here
    obtain ⟨t, present, rfl⟩ := List.mem_map.mp among
    have met := (parts.mem_sources_iff t.source).mp (List.mem_map_of_mem present)
    have atEnd : last = (records.map BugRecord.source).length := by
      rw [List.map_singleton, List.mem_singleton] at here
      rw [here, List.map_append, List.idxOf_append_of_notMem unmet]
      simp
    rw [atEnd]
    exact List.idxOf_lt_length_of_mem met
  · intro t present
    rcases List.mem_append.mp present with before | last
    · have apart : r.source ≠ t.source := fun equal =>
        new (List.mem_map.mpr ⟨t, before, equal.symm⟩)
      rw [parts.exact t before, List.filter_append]
      simp [apart]
    · rw [List.mem_singleton.mp last, List.filter_append]
      have none : records.filter (fun other => other.source == r.source) = [] := by
        rw [List.filter_eq_nil_iff]
        intro other present same
        exact unmet (List.mem_map.mpr ⟨other, present, beq_iff_eq.mp same⟩)
      simp [none]
  · intro t present
    rcases List.mem_append.mp present with before | last
    · exact parts.nonempty t before
    · rw [List.mem_singleton.mp last]
      simp
  · rw [List.flatMap_append, List.flatMap_singleton]
    exact parts.complete.append_right [r]

/-- Filing one more record. -/
theorem file (parts : Partitions records tasks) (r : BugRecord) :
    Partitions (records ++ [r]) (Task.file tasks r) := by
  by_cases known : r.source ∈ tasks.map Task.source
  · rw [file_of_known known]
    exact parts.addKnown known
  · rw [file_of_new known]
    exact parts.addNew known

/-- Filing records one after the other. -/
theorem fileAll (parts : Partitions records tasks) (more : List BugRecord) :
    Partitions (records ++ more) (more.foldl Task.file tasks) := by
  induction more generalizing records tasks with
  | nil =>
    rw [List.append_nil]
    exact parts
  | cons r rest ih =>
    have next := ih (parts.file r)
    rwa [List.append_assoc] at next

end Partitions

/-- The tasks of records are a stable partition of them. -/
theorem group_partitions (records : List BugRecord) : Partitions records (group records) :=
  Partitions.nil.fileAll records

end DefectGraph.Task
