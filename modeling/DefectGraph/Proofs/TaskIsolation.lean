import DefectGraph.Proofs.Shift
import DefectGraph.Proofs.TaskFiles

/-!
# Tasks do not interfere

A task gives the same rows in a run as it gives alone, with the numbers that it would draw there.

## Main Definitions

* `Rows.renumber` - rows with other node and group numbers.
* `Alike` - outcomes of a job in two workspaces that differ in what was drawn before.
* `Run.Writable`, `Run.SourcesUnwritten`, `Run.WaysUnmade` - what a run has to leave alone.

## Main Statements

* `Task.work_alike` - a task from later counts, with the source as it was.
* `Run.tasks_isolated` - the tasks of a run, compared with the same tasks alone.

## Design Notes

A source is found through the directories on its path. A run makes directories, so it may open the way to
a source that was out of reach before; that is why no directory on the way to a source may be new.
-/

namespace DefectGraph

open DefectGraph.Graph DefectGraph.Source

/-! ### Rows with other numbers -/

/-- The row of the node with another number, in another group. -/
def NodeRow.renumber (node group : Nat → Nat) (r : NodeRow) : NodeRow :=
  { r with
    id := node r.id
    methodSourceFile := r.project ++ "/methods/" ++ toString (node r.id) ++ ".java"
    graphId := r.graphId.map group }

/-- The row of the edge between nodes with other numbers, in another group. -/
def EdgeRow.renumber (node group : Nat → Nat) (e : EdgeRow) : EdgeRow :=
  ⟨node e.source, node e.destination, e.graphId.map group⟩

/-- Rows with other node and group numbers. -/
def Rows.renumber (node group : Nat → Nat) (rows : Rows) : Rows :=
  ⟨rows.nodes.map (NodeRow.renumber node group), rows.edges.map (EdgeRow.renumber node group)⟩

section

variable (offset : Ids)

/-- The same nodes are shown, with later numbers. -/
theorem Run.shown_shift (hood : Neighborhood) :
    Run.shown (hood.shift offset) = (Run.shown hood).map (Node.shift offset) := by
  unfold Run.shown Neighborhood.shift
  rw [List.filter_map]
  congr 2
  funext n
  simp [Node.shift]

/-- The row of an edge is the same, with later numbers. -/
theorem Run.edgeRow?_shift (hood : Neighborhood) (e : Edge) :
    Run.edgeRow? (hood.shift offset) (e.shift offset) =
      (Run.edgeRow? hood e).map (EdgeRow.renumber offset.laterNode offset.laterGroup) := by
  unfold Run.edgeRow?
  rw [Edge.source_shift, Edge.destination_shift, Neighborhood.node?_shift, Neighborhood.node?_shift]
  cases hood.node? e.source with
  | none => rfl
  | some source =>
    cases hood.node? e.destination with
    | none => rfl
    | some destination => rfl

theorem Run.edgeRows_shift (hood : Neighborhood) :
    Run.edgeRows (hood.shift offset) =
      (Run.edgeRows hood).map (EdgeRow.renumber offset.laterNode offset.laterGroup) := by
  unfold Run.edgeRows
  change (hood.edges.map (Edge.shift offset)).filterMap _ = _
  rw [List.filterMap_map, List.map_filterMap]
  congr 1
  funext e
  exact Run.edgeRow?_shift offset hood e

end

/-- As long as no number is drawn twice, later numbers are larger by what was drawn before. -/
theorem Tabled.renumber {keepIsolated : Bool} {start after : Ids} {rows : Rows}
    (tabled : Tabled keepIsolated start after (rows.nodes.map NodeRow.key) rows.edges) {offset : Ids}
    (distinct : (offset.shift after).Distinct) :
    rows.renumber offset.laterNode offset.laterGroup =
      rows.renumber (· + offset.nodes) (· + offset.groups) := by
  have nodes : ∀ r ∈ rows.nodes, offset.laterNode r.id = r.id + offset.nodes ∧
      r.graphId.map offset.laterGroup = r.graphId.map (· + offset.groups) := by
    intro r present
    have key : r.key ∈ rows.nodes.map NodeRow.key := List.mem_map_of_mem present
    have number := tabled.ascending.high r.id (List.mem_map_of_mem key)
    obtain ⟨group, grouped, _, high⟩ := tabled.groups r.key key
    have fewNodes := distinct.nodes
    have fewGroups := distinct.groups
    simp only [Ids.shift] at fewNodes fewGroups
    change r.graphId = some group at grouped
    rw [grouped]
    refine ⟨Nat.mod_eq_of_lt (by omega), congrArg some (Nat.mod_eq_of_lt (by omega))⟩
  have ends : ∀ key ∈ rows.nodes.map NodeRow.key, offset.laterNode key.id = key.id + offset.nodes ∧
      key.graphId.map offset.laterGroup = key.graphId.map (· + offset.groups) := by
    intro key present
    obtain ⟨r, among, rfl⟩ := List.mem_map.mp present
    exact nodes r among
  unfold Rows.renumber
  congr 1
  · refine List.map_congr_left fun r present => ?_
    obtain ⟨number, group⟩ := nodes r present
    simp only [NodeRow.renumber, number, group]
  · refine List.map_congr_left fun e present => ?_
    obtain ⟨source, group⟩ := ends _ (tabled.source e present)
    obtain ⟨destination, _⟩ := ends _ (tabled.destination e present)
    simp only [EdgeRow.renumber]
    rw [source, destination, group]

/-! ### Jobs in two workspaces -/

/-- Outcomes of a job in two workspaces, the second with the numbers of `offset` drawn before: both are
done with results that are the same up to numbers, or both fail. Failures to write are set apart. -/
inductive Alike {α : Type} (offset : Ids) (Same : α → α → Prop) :
    Except Failure α × Workspace → Except Failure α × Workspace → Prop where
  | done {a later : α} {w v : Workspace} (same : Same a later) (ids : v.ids = offset.shift w.ids) :
    Alike offset Same (.ok a, w) (.ok later, v)
  | failed (failure cause : Failure) (w v : Workspace) :
    Alike offset Same (.error failure, w) (.error cause, v)
  | unwritten {failure : Failure} (write : failure.isWrite = true) (w : Workspace)
    (outcome : Except Failure α × Workspace) : Alike offset Same (.error failure, w) outcome
  | unwrittenLater {failure : Failure} (write : failure.isWrite = true) (v : Workspace)
    (outcome : Except Failure α × Workspace) : Alike offset Same outcome (.error failure, v)

namespace Alike

variable {α β : Type} {offset : Ids} {Same : α → α → Prop} {Also : β → β → Prop} {w v : Workspace}

/-- Sequences of jobs end alike when the first jobs do and the next ones do from there. -/
theorem bind {job later : Job α} {next nextLater : α → Job β}
    (first : Alike offset Same (job.exec w) (later.exec v))
    (second : ∀ a b w v, Same a b → v.ids = offset.shift w.ids →
      Alike offset Also ((next a).exec w) ((nextLater b).exec v)) :
    Alike offset Also ((job >>= next).exec w) ((later >>= nextLater).exec v) := by
  rw [Job.exec_bind, Job.exec_bind]
  generalize job.exec w = one at first ⊢
  generalize later.exec v = other at first ⊢
  cases first with
  | done same ids => exact second _ _ _ _ same ids
  | failed => exact .failed _ _ _ _
  | unwritten write => exact .unwritten write _ _
  | unwrittenLater write => exact .unwrittenLater write _ _

/-- Jobs that only write end alike, whatever the files are. -/
theorem of_onlyWrites {job later : Job Unit} (writes : job.OnlyWrites) (writesLater : later.OnlyWrites)
    (keeps : job.Keeps .ids) (keepsLater : later.Keeps .ids) (ids : v.ids = offset.shift w.ids) :
    Alike offset (fun _ _ => True) (job.exec w) (later.exec v) := by
  rcases one : job.exec w with ⟨failure | _, after⟩
  · exact .unwritten (writes _ _ _ one) _ _
  · rcases other : later.exec v with ⟨failure | _, afterLater⟩
    · exact .unwrittenLater (writesLater _ _ _ other) _ _
    · refine .done trivial ?_
      rw [keeps.ids_eq one, keepsLater.ids_eq other, ids]

end Alike

/-- A source that reads the same gives the same tree. -/
theorem Run.readTree_alike {offset : Ids} (reader : Reader) {path : Path} {w v : Workspace}
    (ids : v.ids = offset.shift w.ids)
    (same : (v.files.read path).toOption = (w.files.read path).toOption) :
    Alike offset Eq ((Run.readTree reader path).exec w) ((Run.readTree reader path).exec v) := by
  have source : Alike offset Eq ((Job.readSource path).exec w) ((Job.readSource path).exec v) := by
    have bytes : Alike offset Eq
        ((Job.ask (.readFile path) fun files => files.read path).exec w)
        ((Job.ask (.readFile path) fun files => files.read path).exec v) := by
      rw [Job.exec_ask, Job.exec_ask]
      cases one : w.files.read path with
      | error e =>
        cases other : v.files.read path with
        | error e => exact .failed _ _ _ _
        | ok bytes => simp [one, other, Except.toOption] at same
      | ok bytes =>
        cases other : v.files.read path with
        | error e => simp [one, other, Except.toOption] at same
        | ok later =>
          simp only [one, other, Except.toOption, Option.some.injEq] at same
          exact .done same.symm ids
    refine bytes.bind fun bytes later w v same ids => ?_
    subst same
    cases Text.Utf8.decode? bytes with
    | some text => exact .done rfl ids
    | none => exact .done rfl ids
  refine source.bind fun text later w v same ids => ?_
  subst same
  cases reader.read text with
  | some tree => exact .done rfl ids
  | none => exact .failed _ _ _ _

/-- Seeds get the numbers drawn from where the task starts. -/
theorem Task.seeds_alike {offset : Ids} (source : SourceVersion) (tree : Tree)
    (records : List BugRecord) {w v : Workspace} (ids : v.ids = offset.shift w.ids) :
    Alike offset (fun nodes later => later = nodes.map (Node.shift offset))
      ((Task.seeds source tree records).exec w) ((Task.seeds source tree records).exec v) := by
  induction records generalizing w v with
  | nil => exact .done rfl ids
  | cons r rest ih =>
    have reports : ∀ notices, Alike offset Eq ((Job.report notices).exec w)
        ((Job.report notices).exec v) := fun _ => .done rfl ids
    unfold Task.seeds
    split
    · exact (reports _).bind fun _ _ w v _ ids => ih ids
    · refine (reports _).bind fun _ _ w v _ ids => ?_
      have draws : Alike offset (fun id later => later = offset.laterNode id)
          (Job.drawNode.exec w) (Job.drawNode.exec v) := by
        have drawn := Ids.nextNode_shift offset w.ids
        rw [← ids] at drawn
        exact .done (congrArg Prod.fst drawn) (congrArg Prod.snd drawn)
      refine draws.bind fun id later w v number ids => ?_
      refine (ih ids).bind fun nodes others w v shifted ids => ?_
      subst number shifted
      exact .done rfl ids

/-- The same declarations are found around seeds, whatever was drawn before. -/
theorem Run.expand_alike {offset : Ids} (template : Template) (tree : Tree) (marker : String)
    (keepIsolated : Bool) (seeds : List Node) {w v : Workspace} (ids : v.ids = offset.shift w.ids) :
    Alike offset (fun hood later => later = hood.shift offset)
      ((Run.expand template tree marker keepIsolated seeds).exec w)
      ((Run.expand template tree marker keepIsolated (seeds.map (Node.shift offset))).exec v) := by
  rw [Run.exec_expand, Run.exec_expand, ids, extract?_shift]
  rcases extract? template tree seeds w.ids with _ | ⟨hood, events, drawn⟩
  · exact .failed _ _ _ _
  · have groups := Neighborhood.partition_shift offset (hood.filter marker) keepIsolated drawn
    simp only [Option.map_some, Neighborhood.filter_shift, groups]
    exact .done rfl rfl

/-- A task from later counts gives its rows with later numbers, when its source reads the same. -/
theorem Task.work_alike {offset : Ids} (options : RunContext) (task : Task) {w v : Workspace}
    (ids : v.ids = offset.shift w.ids)
    (same : (v.files.read (task.sourcePath options)).toOption =
      (w.files.read (task.sourcePath options)).toOption) :
    Alike offset (fun rows later => later = rows.renumber offset.laterNode offset.laterGroup)
      ((Task.work options task).exec w) ((Task.work options task).exec v) := by
  refine (Run.readTree_alike options.reader ids same).bind fun tree later w v same ids => ?_
  subst same
  refine (Alike.of_onlyWrites (.copyOnce _ _ _) (.copyOnce _ _ _) (Job.keeps_copyOnce _ _ _)
    (Job.keeps_copyOnce _ _ _) ids).bind fun _ _ w v _ ids => ?_
  refine (Task.seeds_alike task.source tree task.records ids).bind fun seeds later w v shifted ids => ?_
  subst shifted
  rw [List.isEmpty_map]
  split
  · exact .done rfl ids
  · refine (Run.expand_alike _ tree _ _ seeds ids).bind fun hood later w v shifted ids => ?_
    subst shifted
    refine (Alike.of_onlyWrites (.writeMethods _ _ _ _) (.writeMethods _ _ _ _)
      (Run.keeps_writeMethods _ _ _ _) (Run.keeps_writeMethods _ _ _ _) ids).bind
      fun _ _ w v _ ids => ?_
    refine .done ?_ ids
    rw [Run.shown_shift, Run.edgeRows_shift, List.map_map]
    simp only [Rows.renumber, List.map_map]
    rfl

/-! ### Tasks in a run and alone -/

/-- The rows that a task gives in a workspace; none when it fails. -/
def Task.rows? (options : RunContext) (task : Task) (w : Workspace) : Option Rows :=
  ((Task.attempt options task).run w).1

/-- The files of rows are named for the numbers of the rows. -/
theorem Task.methodSourceFile_eq {options : RunContext} {task : Task} {w : Workspace} {rows : Rows}
    (given : Task.rows? options task w = some rows) {r : NodeRow} (present : r ∈ rows.nodes) :
    r.methodSourceFile = r.project ++ "/methods/" ++ toString r.id ++ ".java" := by
  rw [Task.rows?, Task.run_attempt] at given
  rcases outcome : (Task.work options task).exec w with ⟨failure | result, after⟩
  · simp [outcome] at given
  · simp only [outcome, Option.some.injEq] at given
    subst given
    obtain ⟨tree, parsed, _, done⟩ := Job.exec_bind_ok.mp outcome
    obtain ⟨_, copied, _, done⟩ := Job.exec_bind_ok.mp done
    obtain ⟨seeds, seeded, _, done⟩ := Job.exec_bind_ok.mp done
    split at done
    · cases done
      cases present
    · obtain ⟨hood, expanded, _, done⟩ := Job.exec_bind_ok.mp done
      obtain ⟨_, written, _, done⟩ := Job.exec_bind_ok.mp done
      cases done
      obtain ⟨n, _, rfl⟩ := List.mem_map.mp present
      rfl

namespace Run

/-- Whatever the run and its tasks write can be written, in the run and by each task alone. -/
structure Writable (options : RunContext) (tasks : List Task) (w : Workspace) : Prop where
  run : (training options).canWrite w = true
  together : ∀ s ∈ starts options tasks w, (Task.work options s.1).canWrite s.2 = true
  alone : ∀ task ∈ tasks, (Task.work options task).canWrite w = true

/-- No task of the run writes a file where the source of a task is. -/
def SourcesUnwritten (options : RunContext) (tasks : List Task) (w : Workspace) : Prop :=
  ∀ s ∈ starts options tasks w, ∀ path ∈ Task.written options s.1 s.2, ∀ task ∈ tasks,
    w.files.locate (task.sourcePath options) ≠ .ok (FileStore.place path)

/-- No directory on the way to the source of a task is new after the tasks. -/
def WaysUnmade (options : RunContext) (tasks : List Task) (w : Workspace) : Prop :=
  ∀ task ∈ tasks, ∀ l ∈ FileStore.wayTo (task.sourcePath options),
    ((Task.attemptAll options tasks).run w).2.files.at? l = some .directory →
      w.files.at? l = some .directory

instance (options : RunContext) (tasks : List Task) (w : Workspace) :
    Decidable (SourcesUnwritten options tasks w) :=
  inferInstanceAs (Decidable (∀ s ∈ starts options tasks w, ∀ path ∈ Task.written options s.1 s.2,
    ∀ task ∈ tasks, w.files.locate (task.sourcePath options) ≠ .ok (FileStore.place path)))

instance (options : RunContext) (tasks : List Task) (w : Workspace) :
    Decidable (WaysUnmade options tasks w) :=
  inferInstanceAs (Decidable (∀ task ∈ tasks, ∀ l ∈ FileStore.wayTo (task.sourcePath options),
    ((Task.attemptAll options tasks).run w).2.files.at? l = some .directory →
      w.files.at? l = some .directory))

section

variable {options : RunContext} {tasks : List Task} {w : Workspace}

/-- When a task starts, its source reads as at the start of the run. -/
theorem read_start (writable : Writable options tasks w)
    (unwritten : SourcesUnwritten options tasks w) (unmade : WaysUnmade options tasks w)
    {s : Task × Workspace} (among : s ∈ starts options tasks w) :
    (s.2.files.read (s.1.sourcePath options)).toOption =
      (w.files.read (s.1.sourcePath options)).toOption := by
  have task := mem_of_mem_starts among
  obtain ⟨_, each⟩ := spares_starts
    (fun l => ∃ task ∈ tasks, w.files.locate (task.sourcePath options) = .ok l)
    options tasks w writable.together fun s among path written ⟨task, present, found⟩ =>
      unwritten s among path written task present found
  obtain ⟨before, after⟩ := each s among
  refine FileStore.read_of_spares before (fun l found => ⟨s.1, task, found⟩) fun l on there => ?_
  -- A directory that is there when the task starts is there after the run.
  exact unmade s.1 task l on (after.directories l there)

/-- A task of a run gives what it gives alone, with the numbers drawn from where it starts. -/
theorem rows?_start (fresh : w.ids = .zero) (writable : Writable options tasks w)
    (unwritten : SourcesUnwritten options tasks w) (unmade : WaysUnmade options tasks w)
    (distinct : ((Task.attemptAll options tasks).run w).2.ids.Distinct)
    {s : Task × Workspace} (among : s ∈ starts options tasks w) :
    Task.rows? options s.1 s.2 =
      (Task.rows? options s.1 w).map
        (Rows.renumber (· + s.2.ids.nodes) (· + s.2.ids.groups)) := by
  have task := mem_of_mem_starts among
  have ids : s.2.ids = s.2.ids.shift w.ids := by rw [fresh, Ids.shift_zero]
  have alike := Task.work_alike options s.1 ids (read_start writable unwritten unmade among)
  have drawn := ids_attempt_le among
  have alone := writable.alone s.1 task
  have together := writable.together s among
  unfold Task.rows?
  rw [Task.run_attempt] at drawn ⊢
  rw [Task.run_attempt]
  unfold Job.canWrite at alone together
  rcases one : (Task.work options s.1).exec w with ⟨failure | rows, after⟩
  · rcases other : (Task.work options s.1).exec s.2 with ⟨cause | later, afterLater⟩
    · rfl
    · rw [one, other] at alike
      cases alike with
      | unwritten write => simp [one, write] at alone
  · rcases other : (Task.work options s.1).exec s.2 with ⟨cause | later, afterLater⟩
    · rw [one, other] at alike
      cases alike with
      | unwrittenLater write => simp [other, write] at together
    · rw [one, other] at alike
      cases alike with
      | done same ids =>
        rw [other] at drawn
        have few : (s.2.ids.shift after.ids).Distinct := ids ▸ distinct.of_le drawn
        have fewAlone : after.ids.Distinct :=
          few.of_le ⟨Nat.le_add_right _ _, Nat.le_add_right _ _⟩
        subst same
        exact congrArg some ((Task.work_ok one fewAlone).renumber few)

end

/-- Writes the rows of the tasks that do not fail, and sums up. -/
def writeResults (options : RunContext) (results : List (Option Rows)) : Job Summary := do
  let done := results.filterMap id
  let nodes := done.flatMap Rows.nodes
  let edges := done.flatMap Rows.edges
  Job.writeTable (nodeTable nodes) (nodesFile options.output)
  Job.writeTable (edgeTable edges) (edgesFile options.output)
  return ⟨results.length, results.length - done.length, nodes.length, edges.length⟩

/-- Writing the results only fails at writing. -/
theorem onlyWrites_writeResults (options : RunContext) (results : List (Option Rows)) :
    (writeResults options results).OnlyWrites :=
  .bind (.writeTable _ _) fun _ => .bind (.writeTable _ _) fun _ => .pure _

/-- Once its records are read, a run works on the tasks and writes the results. -/
theorem exec_training {options : RunContext} {w : Workspace} {records : List BugRecord}
    (read : BugRecord.readAll w.files options.input = .ok records) :
    (training options).exec w =
      (writeResults options ((Task.attemptAll options (Task.group records)).run w).1).exec
        ((Task.attemptAll options (Task.group records)).run w).2 := by
  have found : (Job.readRecords options.input).exec w = (.ok records, w) := by
    rw [Job.readRecords, Job.exec_bind]
    simp only [Job.exec_get, read]
    rfl
  refine (Job.exec_bind_of_ok found).trans ((Job.exec_bind_of_ok (Job.exec_lift _ _)).trans ?_)
  rw [writeResults, length_attemptAll]

/-- Tasks that give no rows and those that do make up all tasks. -/
theorem countP_isNone (results : List (Option Rows)) :
    results.countP Option.isNone = results.length - (results.filterMap id).length := by
  have split := List.length_eq_countP_add_countP Option.isSome (l := results)
  have none : results.countP (fun r => decide ¬ r.isSome = true) = results.countP Option.isNone :=
    List.countP_congr fun r _ => by simp
  rw [none] at split
  rw [List.length_filterMap_eq_countP, split]
  exact (Nat.add_sub_cancel_left ..).symm

/-- After the records are read only writing can fail, so a run that can write is done. -/
theorem training_done {options : RunContext} {records : List BugRecord} {w : Workspace}
    (read : BugRecord.readAll w.files options.input = .ok records)
    (writable : (training options).canWrite w = true) :
    ∃ summary after, (training options).exec w = (.ok summary, after) := by
  unfold Job.canWrite at writable
  rcases outcome : (training options).exec w with ⟨failure | summary, after⟩
  · have write := onlyWrites_writeResults options _ _ failure after (exec_training read ▸ outcome)
    simp [outcome, write] at writable
  · exact ⟨summary, after, rfl⟩

/-- The rows of all tasks are those of the tasks that are done, in order. -/
theorem flatMap_attemptAll {α : Type} (options : RunContext) (tasks : List Task) (w : Workspace)
    (column : Rows → List α) :
    (((Task.attemptAll options tasks).run w).1.filterMap id).flatMap column =
      (starts options tasks w).flatMap fun s =>
        (Task.rows? options s.1 s.2).toList.flatMap column := by
  rw [attemptAll_eq_map_starts]
  induction starts options tasks w with
  | nil => rfl
  | cons s others ih =>
    rw [List.map_cons, List.flatMap_cons, ← ih]
    change ((Task.rows? options s.1 s.2 :: _).filterMap id).flatMap column = _
    cases Task.rows? options s.1 s.2 <;> simp

/-- Tasks do not interfere: in a run that can write, that writes to no source, and that makes no
directory on the way to one, each task fails exactly when it fails alone, and otherwise gives the rows
that it gives alone, with larger numbers. The run is done even if tasks fail, its tables hold the rows of
the others in order, and it counts those that failed. -/
theorem tasks_isolated (options : RunContext) (records : List BugRecord) (w : Workspace)
    (fresh : w.ids = .zero) (read : BugRecord.readAll w.files options.input = .ok records)
    (writable : Writable options (Task.group records) w)
    (unwritten : SourcesUnwritten options (Task.group records) w)
    (unmade : WaysUnmade options (Task.group records) w)
    (distinct : ((Task.attemptAll options (Task.group records)).run w).2.ids.Distinct) :
    (∀ s ∈ starts options (Task.group records) w,
      Task.rows? options s.1 s.2 =
        (Task.rows? options s.1 w).map
          (Rows.renumber (· + s.2.ids.nodes) (· + s.2.ids.groups)) ∧
      ∀ rows, Task.rows? options s.1 w = some rows → ∀ r ∈ rows.nodes,
        r.methodSourceFile = r.project ++ "/methods/" ++ toString r.id ++ ".java") ∧
    ∃ summary after, (training options).exec w = (.ok summary, after) ∧
      after.files.read (nodesFile options.output) =
        .ok (Text.Utf8.encode (nodeTable ((starts options (Task.group records) w).flatMap fun s =>
          (Task.rows? options s.1 s.2).toList.flatMap Rows.nodes)).text) ∧
      after.files.read (edgesFile options.output) =
        .ok (Text.Utf8.encode (edgeTable ((starts options (Task.group records) w).flatMap fun s =>
          (Task.rows? options s.1 s.2).toList.flatMap Rows.edges)).text) ∧
      summary.failed = (starts options (Task.group records) w).countP fun s =>
        (Task.rows? options s.1 s.2).isNone := by
  refine ⟨fun s among => ⟨rows?_start fresh writable unwritten unmade distinct among,
    fun rows given r present => Task.methodSourceFile_eq given present⟩, ?_⟩
  obtain ⟨summary, after, done⟩ := training_done read writable.run
  obtain ⟨found, readAgain, nodesWritten, edgesWritten, failed, _⟩ := training_written done
  rw [read] at readAgain
  cases readAgain
  refine ⟨summary, after, done, ?_, ?_, ?_⟩
  · rw [nodesWritten, flatMap_attemptAll]
  · rw [edgesWritten, flatMap_attemptAll]
  · rw [failed, ← length_attemptAll options _ w, ← countP_isNone, attemptAll_eq_map_starts,
      List.countP_map]
    rfl

/-- The table of records, with the one source that they are about. -/
def soleSource (records : List BugRecord) : Workspace := ⟨⟨[
  (["in"], .file (Text.Utf8.encode (BugRecord.table records).text)),
  (["A"], .file (Text.Utf8.encode "class A{void f(){f();}}"))]⟩, .zero, []⟩

/-- A task with two records for one declaration; their bug counts do not fit when they are added up. -/
def overflowTask : Task := ⟨⟨"p", "h", "A"⟩, [
  ⟨"p", "A", "h", "A.f()V", "A", maxBugs⟩, ⟨"p", "A", "h", "A.f()V", "A", 1⟩]⟩

/-- A task with one record. -/
def soundTask : Task := ⟨⟨"q", "h", "A"⟩, [⟨"q", "A", "h", "A.f()V", "A", 1⟩]⟩

/-- The records of both tasks. -/
def overflowRecords : List BugRecord := overflowTask.records ++ soundTask.records

theorem readAll_overflowRecords :
    BugRecord.readAll (soleSource overflowRecords).files (sampleOptions "in").input =
      .ok overflowRecords := by
  decide +kernel

/-- The records are those of two tasks, and the first one overflows. -/
theorem group_overflowRecords : Task.group overflowRecords = [overflowTask, soundTask] := by
  decide +kernel

/-- The first task fails after it has drawn two numbers, so the second gives its rows from there on. -/
theorem tasks_isolated_of_overflow :
    ((starts (sampleOptions "in") (Task.group overflowRecords) (soleSource overflowRecords)).map
      fun s => s.2.ids) = [⟨0, 0⟩, ⟨2, 0⟩] ∧
    (∀ s ∈ starts (sampleOptions "in") (Task.group overflowRecords) (soleSource overflowRecords),
      Task.rows? (sampleOptions "in") s.1 s.2 =
        (Task.rows? (sampleOptions "in") s.1 (soleSource overflowRecords)).map
          (Rows.renumber (· + s.2.ids.nodes) (· + s.2.ids.groups))) ∧
    ∃ summary after,
      (training (sampleOptions "in")).exec (soleSource overflowRecords) = (.ok summary, after) ∧
      summary.failed = 1 := by
  have read := readAll_overflowRecords
  obtain ⟨run, together, alone, unwritten, unmade, drawn, ids, failures⟩ :
      (training (sampleOptions "in")).canWrite (soleSource overflowRecords) = true ∧
      (∀ s ∈ starts (sampleOptions "in") (Task.group overflowRecords) (soleSource overflowRecords),
        (Task.work (sampleOptions "in") s.1).canWrite s.2 = true) ∧
      (∀ task ∈ Task.group overflowRecords,
        (Task.work (sampleOptions "in") task).canWrite (soleSource overflowRecords) = true) ∧
      SourcesUnwritten (sampleOptions "in") (Task.group overflowRecords)
        (soleSource overflowRecords) ∧
      WaysUnmade (sampleOptions "in") (Task.group overflowRecords) (soleSource overflowRecords) ∧
      ((Task.attemptAll (sampleOptions "in") (Task.group overflowRecords)).run
        (soleSource overflowRecords)).2.ids = ⟨3, 1⟩ ∧
      ((starts (sampleOptions "in") (Task.group overflowRecords) (soleSource overflowRecords)).map
        fun s => s.2.ids) = [⟨0, 0⟩, ⟨2, 0⟩] ∧
      ((starts (sampleOptions "in") (Task.group overflowRecords)
        (soleSource overflowRecords)).countP fun s =>
          (Task.rows? (sampleOptions "in") s.1 s.2).isNone) = 1 := by
    rw [Job.canWrite, exec_training read, ← Job.canWrite, group_overflowRecords]
    decide +kernel
  have few : ((Task.attemptAll (sampleOptions "in") (Task.group overflowRecords)).run
      (soleSource overflowRecords)).2.ids.Distinct := by
    rw [drawn]
    exact ⟨by decide, by decide⟩
  obtain ⟨each, summary, after, done, _, _, failed⟩ := tasks_isolated (sampleOptions "in")
    overflowRecords (soleSource overflowRecords) rfl read ⟨run, together, alone⟩ unwritten unmade few
  exact ⟨ids, fun s among => (each s among).1, summary, after, done, failed.trans failures⟩

/-- A task that makes the directory of its project. -/
def makingTask : Task := ⟨⟨"x", "h", "A"⟩, [⟨"x", "A", "h", "A.f()V", "A", 1⟩]⟩

/-- A task whose source is reached through that directory. -/
def reachingTask : Task := ⟨⟨"y", "h", "out/x/../../A"⟩, [
  ⟨"y", "out/x/../../A", "h", "A.f()V", "A", 1⟩]⟩

/-- The records of both tasks. -/
def openedRecords : List BugRecord := makingTask.records ++ reachingTask.records

/-- A run may open the way to a source: it can write and writes to no source, yet its second task gives
rows and fails alone. -/
theorem way_opened :
    BugRecord.readAll (soleSource openedRecords).files (sampleOptions "in").input =
      .ok openedRecords ∧
    Writable (sampleOptions "in") (Task.group openedRecords) (soleSource openedRecords) ∧
    SourcesUnwritten (sampleOptions "in") (Task.group openedRecords) (soleSource openedRecords) ∧
    ((Task.attemptAll (sampleOptions "in") (Task.group openedRecords)).run
      (soleSource openedRecords)).2.ids = ⟨2, 2⟩ ∧
    (starts (sampleOptions "in") (Task.group openedRecords) (soleSource openedRecords)).map
      (fun s => ((Task.rows? (sampleOptions "in") s.1 s.2).isSome,
        (Task.rows? (sampleOptions "in") s.1 (soleSource openedRecords)).isSome)) =
      [(true, true), (true, false)] := by
  have read : BugRecord.readAll (soleSource openedRecords).files (sampleOptions "in").input =
      .ok openedRecords := by decide +kernel
  have grouped : Task.group openedRecords = [makingTask, reachingTask] := by decide +kernel
  obtain ⟨run, together, alone, rest⟩ :
      (training (sampleOptions "in")).canWrite (soleSource openedRecords) = true ∧
      (∀ s ∈ starts (sampleOptions "in") (Task.group openedRecords) (soleSource openedRecords),
        (Task.work (sampleOptions "in") s.1).canWrite s.2 = true) ∧
      (∀ task ∈ Task.group openedRecords,
        (Task.work (sampleOptions "in") task).canWrite (soleSource openedRecords) = true) ∧
      SourcesUnwritten (sampleOptions "in") (Task.group openedRecords) (soleSource openedRecords) ∧
      ((Task.attemptAll (sampleOptions "in") (Task.group openedRecords)).run
        (soleSource openedRecords)).2.ids = ⟨2, 2⟩ ∧
      (starts (sampleOptions "in") (Task.group openedRecords) (soleSource openedRecords)).map
        (fun s => ((Task.rows? (sampleOptions "in") s.1 s.2).isSome,
          (Task.rows? (sampleOptions "in") s.1 (soleSource openedRecords)).isSome)) =
        [(true, true), (true, false)] := by
    rw [Job.canWrite, exec_training read, ← Job.canWrite, grouped]
    decide +kernel
  exact ⟨read, ⟨run, together, alone⟩, rest⟩

end Run

end DefectGraph
