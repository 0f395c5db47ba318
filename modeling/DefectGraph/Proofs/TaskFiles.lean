import DefectGraph.Proofs.Tables

/-!
# The files that tasks write

## Main Definitions

* `Frame.files`, `Frame.spares` - no files are changed; files at the given places are not.
* `Failure.isWrite`, `Job.canWrite` - failures to write, and jobs that do not end with one.
* `Task.written` - the paths of the files that an attempt at a task writes.
* `Run.starts` - the tasks of a run, with the workspace that each starts in.

## Main Statements

* `Task.spares_attempt` - an attempt changes no file but those that it writes.
* `Run.spares_starts` - neither do the attempts of a run before a task, nor those from it on.

## Design Notes

A failed attempt has effects as well, and they stay. So what an attempt writes is read off its outcome, in
`Task.written`: the copy is made as soon as the source can be read, the methods are written only for rows
that are given. `Frame.spares` is one more `Frame`, and the step lemmas for files are those of `Proofs.Job`
at this frame.
-/

namespace DefectGraph

open DefectGraph.Graph DefectGraph.Source

/-! ### Files that stay -/

/-- No files are changed. -/
def Frame.files : Frame :=
  ⟨fun before after => after.files = before.files, fun _ => rfl, fun first second => second.trans first⟩

/-- Directories stay, and so do the files at the places of `kept`. -/
def Frame.spares (kept : Location → Prop) : Frame :=
  ⟨fun before after => FileStore.Spares kept before.files after.files, fun _ => .refl kept _,
    fun first second => first.trans second⟩

/-- The failure is one to write a file or to make a directory. -/
def Failure.isWrite : Failure → Bool
  | .createDirectory .. | .writeFile .. | .copyFile .. | .createOutput .. | .createTable .. => true
  | .readFile .. | .records _ | .unparsed _ | .overflow => false

namespace Job

variable {α β : Type} {kept : Location → Prop}

/-- The job does not end because something cannot be written. -/
def canWrite (job : Job α) (w : Workspace) : Bool :=
  match (job.exec w).1 with
  | .ok _ => true
  | .error failure => !failure.isWrite

/-- The job fails only because something cannot be written. -/
def OnlyWrites (job : Job α) : Prop :=
  ∀ w failure after, job.exec w = (.error failure, after) → failure.isWrite = true

namespace OnlyWrites

theorem pure (a : α) : OnlyWrites (Pure.pure a : Job α) := by
  intro w failure after failed
  cases failed

/-- Jobs that only fail at writing do so one after the other. -/
theorem bind {job : Job α} {next : α → Job β} (first : job.OnlyWrites)
    (second : ∀ a, (next a).OnlyWrites) : (job >>= next).OnlyWrites := by
  intro w failure after failed
  rw [exec_bind] at failed
  rcases outcome : job.exec w with ⟨cause | a, between⟩
  · rw [outcome] at failed
    cases failed
    exact first _ _ _ outcome
  · rw [outcome] at failed
    exact second a between failure after failed

/-- A change of files only fails at writing if its failures are of that kind. -/
theorem change {failure : FileError → Failure} (write : ∀ e, (failure e).isWrite = true)
    (action : FileStore → Except FileError FileStore) : (Job.change failure action).OnlyWrites := by
  intro w cause after failed
  rw [exec_change] at failed
  cases answer : action w.files with
  | ok files => simp [answer] at failed
  | error e =>
    simp only [answer] at failed
    cases failed
    exact write e

theorem makeParents (path : Path) : (Job.makeParents path).OnlyWrites := by
  unfold Job.makeParents
  split
  · exact .change (fun _ => rfl) _
  · exact .pure _

theorem writeFile (root rel : Path) (content : Bytes) : (Job.writeFile root rel content).OnlyWrites :=
  .bind (.makeParents _) fun _ => .change (fun _ => rfl) _

theorem copyOnce (source root rel : Path) : (Job.copyOnce source root rel).OnlyWrites := by
  refine .bind (fun _ _ _ failed => by cases failed) fun w => ?_
  split
  · exact .pure _
  · exact .bind (.makeParents _) fun _ => .change (fun _ => rfl) _

theorem writeTable (table : Csv.Table) (path : Path) : (Job.writeTable table path).OnlyWrites := by
  unfold Job.writeTable
  split
  · exact .bind (.makeParents _) fun _ => .change (fun _ => rfl) _
  · exact .change (fun _ => rfl) _

theorem writeMethods (output : Path) (tree : Tree) (file : Node → Path) (nodes : List Node) :
    (Run.writeMethods output tree file nodes).OnlyWrites := by
  induction nodes with
  | nil => exact .pure ()
  | cons n rest ih => exact .bind (.writeFile _ _ _) fun _ => ih

end OnlyWrites

/-- After a job that changes no files and is done, the files are what they were. -/
theorem Keeps.files_eq {job : Job α} (keeps : job.Keeps .files) {w after : Workspace} {a : α}
    (done : job.exec w = (.ok a, after)) : after.files = w.files := by
  have same := keeps w
  rwa [done] at same

/-- A job that leaves the files alone spares all of them. -/
theorem Keeps.spares {job : Job α} (keeps : job.Keeps .files) : job.Keeps (.spares kept) := by
  intro w
  have same : (job.exec w).2.files = w.files := keeps w
  change FileStore.Spares kept w.files (job.exec w).2.files
  rw [same]
  exact .refl kept _

/-- A question leaves the files alone. -/
theorem files_ask (failure : FileError → Failure) (question : FileStore → Except FileError α) :
    (ask failure question).Keeps .files := by
  intro w
  rw [exec_ask]
  cases question w.files with
  | ok a => rfl
  | error e => rfl

theorem files_report (notices : List Notice) : (report notices).Keeps .files := fun _ => rfl

/-- Reading a source leaves the files alone. -/
theorem files_readSource (path : Path) : (readSource path).Keeps .files := by
  refine .bind (files_ask _ _) fun bytes => ?_
  split
  · exact .pure _
  · exact .bind (files_report _) fun _ => .pure _

/-- A change spares what it spares whenever it is made. -/
theorem spares_change {failure : FileError → Failure}
    {action : FileStore → Except FileError FileStore}
    (spares : ∀ s after, action s = .ok after → FileStore.Spares kept s after) :
    (change failure action).Keeps (.spares kept) := by
  intro w
  rw [exec_change]
  cases answer : action w.files with
  | ok files => exact spares _ _ answer
  | error e => exact .refl kept _

/-- Making directories spares all files. -/
theorem spares_makeParents (path : Path) : (makeParents path).Keeps (.spares kept) := by
  unfold makeParents
  split
  · exact spares_change fun _ _ made => (FileStore.grown_makeDirectories made).spares kept
  · exact .pure _

/-- Writing a file spares whatever is elsewhere. -/
theorem spares_writeFile (root rel : Path) (content : Bytes)
    (elsewhere : ¬ kept (FileStore.place (root.join rel))) :
    (writeFile root rel content).Keeps (.spares kept) :=
  .bind (spares_makeParents _) fun _ =>
    spares_change fun _ _ written => FileStore.spares_write written fun _ => elsewhere

/-- Copying a source spares whatever is elsewhere, and everything when the copy is there already. -/
theorem spares_copyOnce (source root rel : Path) (w : Workspace)
    (elsewhere : w.files.hasPath (root.join rel) = false → FileStore.IsUsable (root.join rel) →
      ¬ kept (FileStore.place (root.join rel))) :
    (Frame.spares kept).holds w ((copyOnce source root rel).exec w).2 := by
  rw [copyOnce, exec_bind]
  simp only [exec_get]
  split
  · exact .refl kept _
  · rename_i missing
    have apart := elsewhere (by simpa using missing)
    have copies : (change (.copyFile source (root.join rel)) fun files =>
        files.copy source (root.join rel)).Keeps (.spares kept) := by
      refine spares_change fun s after copied => ?_
      obtain ⟨content, _, written⟩ := FileStore.copy_ok copied
      exact FileStore.spares_write written apart
    have both : (makeParents (root.join rel) >>= fun _ => change (.copyFile source (root.join rel))
        fun files => files.copy source (root.join rel)).Keeps (.spares kept) :=
      .bind (spares_makeParents _) fun _ => copies
    exact both w

end Job

namespace Run

/-- Reading a tree leaves the files alone, whatever the reader. -/
theorem files_readTree (reader : Reader) (path : Path) : (readTree reader path).Keeps .files := by
  refine .bind (Job.files_readSource path) fun text => ?_
  split
  · exact .bind (Job.files_report _) fun _ => .pure _
  · exact .throw _

theorem files_expand (template : Template) (tree : Tree) (marker : String) (keepIsolated : Bool)
    (seeds : List Node) : (expand template tree marker keepIsolated seeds).Keeps .files := by
  intro w
  rw [exec_expand]
  rcases extract? template tree seeds w.ids with _ | ⟨extracted, events, ids⟩
  · rfl
  · rfl

/-- Writing the texts of declarations spares whatever is elsewhere. -/
theorem spares_writeMethods {kept : Location → Prop} (output : Path) (tree : Tree)
    (file : Node → Path) (nodes : List Node)
    (elsewhere : ∀ n ∈ nodes, ¬ kept (FileStore.place (output.join (file n)))) :
    (writeMethods output tree file nodes).Keeps (.spares kept) := by
  induction nodes with
  | nil => exact .pure ()
  | cons n rest ih =>
    refine .bind (Job.spares_writeFile _ _ _ (elsewhere n List.mem_cons_self)) fun _ => ?_
    exact ih fun other among => elsewhere other (List.mem_cons_of_mem n among)

end Run

/-! ### Files that a task writes -/

namespace Task

/-- The path that the source of a task is read from. -/
def sourcePath (options : RunContext) (task : Task) : Path :=
  options.workingDir.join task.source.sourceFile

/-- The path of the copy that an attempt at a task makes: there is one if the source can be read and
nothing is there yet. -/
def copied (options : RunContext) (task : Task) (w : Workspace) : List Path :=
  let target := options.output.join task.source.classFile
  if ((Run.readTree options.reader (task.sourcePath options)).exec w).1.toOption.isSome && !w.files.hasPath target then
    [target]
  else []

/-- The paths of the files that an attempt at a task writes: a copy of the source and a file for each
row of nodes. -/
def written (options : RunContext) (task : Task) (w : Workspace) : List Path :=
  copied options task w ++
    (((attempt options task).run w).1.toList.flatMap Rows.nodes).map fun r =>
      options.output.join r.methodSourceFile

/-- Making seeds leaves the files alone. -/
theorem files_seeds (source : SourceVersion) (tree : Tree) (records : List BugRecord) :
    (seeds source tree records).Keeps .files := by
  have draws : Job.drawNode.Keeps .files := fun _ => rfl
  induction records with
  | nil => exact .pure _
  | cons r rest ih =>
    unfold seeds
    split
    · exact .bind (Job.files_report _) fun _ => ih
    · exact .bind (Job.files_report _) fun _ => .bind draws fun _ => .bind ih fun _ => .pure _

/-- What the nodes of a task share. -/
def template (task : Task) : Template :=
  ⟨task.source.project, task.source.hash, task.source.classFile, true⟩

/-- Once there is a neighborhood around the seeds of a task, what is left to do is to write the methods. -/
theorem exec_work_of_expand {options : RunContext} {task : Task} {tree : Tree} {nodes : List Node}
    {hood : Neighborhood} {u : Unit} {w parsed copied seeded expanded : Workspace}
    (readTree : (Run.readTree options.reader (task.sourcePath options)).exec w = (.ok tree, parsed))
    (copy : (Job.copyOnce (task.sourcePath options) options.output task.source.classFile).exec parsed =
      (.ok u, copied))
    (seeding : (seeds task.source tree task.records).exec copied = (.ok nodes, seeded))
    (present : ¬ nodes.isEmpty = true)
    (expand : (Run.expand task.template tree options.config.excludeMarker options.config.keepIsolated
      nodes).exec seeded = (.ok hood, expanded)) :
    (work options task).exec w =
      (Run.writeMethods options.output tree methodFile (Run.shown hood) >>= fun _ =>
        pure ⟨(Run.shown hood).map nodeRow, Run.edgeRows hood⟩ : Job Rows).exec expanded := by
  refine (Job.exec_bind_of_ok readTree).trans ((Job.exec_bind_of_ok copy).trans
    ((Job.exec_bind_of_ok seeding).trans ?_))
  rw [if_neg present]
  exact Job.exec_bind_of_ok expand

/-- Working on a task spares what is at the place of neither the copy nor a method. How much a task writes
depends on how far it gets: the copy is made once the source has been read, and methods are written once
there is a neighborhood around the seeds. -/
theorem spares_work_of {kept : Location → Prop} {options : RunContext} {task : Task} {w : Workspace}
    (copy : ∀ tree parsed,
      (Run.readTree options.reader (task.sourcePath options)).exec w = (.ok tree, parsed) →
      w.files.hasPath (options.output.join task.source.classFile) = false →
      FileStore.IsUsable (options.output.join task.source.classFile) →
      ¬ kept (FileStore.place (options.output.join task.source.classFile)))
    (methods : ∀ tree nodes hood copied seeded expanded, copied.ids = w.ids →
      (seeds task.source tree task.records).exec copied = (.ok nodes, seeded) →
      (Run.expand task.template tree options.config.excludeMarker options.config.keepIsolated
        nodes).exec seeded = (.ok hood, expanded) →
      (work options task).exec w =
        (Run.writeMethods options.output tree methodFile (Run.shown hood) >>= fun _ =>
          pure ⟨(Run.shown hood).map nodeRow, Run.edgeRows hood⟩ : Job Rows).exec expanded →
      ∀ n ∈ Run.shown hood, ¬ kept (FileStore.place (options.output.join (methodFile n)))) :
    FileStore.Spares kept w.files ((work options task).exec w).2.files := by
  change (Frame.spares kept).holds w ((work options task).exec w).2
  refine Job.holds_bind ((Run.files_readTree _ _).spares w) fun tree parsed readTree => ?_
  refine Job.holds_bind (Job.spares_copyOnce _ _ _ parsed ?_) fun _ copied copying => ?_
  · rw [(Run.files_readTree _ _).files_eq readTree]
    exact copy tree parsed readTree
  have copiedIds : copied.ids = w.ids :=
    ((Job.keeps_copyOnce _ _ _).ids_eq copying).trans ((Run.keeps_readTree _ _).ids_eq readTree)
  refine Job.holds_bind ((files_seeds _ _ _).spares copied) fun nodes seeded seeding => ?_
  split
  · exact Frame.refl _ _
  · rename_i present
    refine Job.holds_bind ((Run.files_expand _ _ _ _ _).spares seeded) fun hood expanded expand => ?_
    have whole := exec_work_of_expand readTree copying seeding present expand
    refine Job.holds_bind ?_ fun _ _ _ => Frame.refl _ _
    exact Run.spares_writeMethods _ _ _ _
      (methods tree nodes hood copied seeded expanded copiedIds seeding expand whole) expanded

/-- Working on a task changes no file but those that are written. -/
theorem spares_work {kept : Location → Prop} (options : RunContext) (task : Task) (w : Workspace)
    (writable : (work options task).canWrite w = true)
    (elsewhere : ∀ path ∈ written options task w, ¬ kept (FileStore.place path)) :
    FileStore.Spares kept w.files ((work options task).exec w).2.files := by
  refine spares_work_of ?_ ?_
  · intro tree parsed readTree missing _
    refine elsewhere _ (List.mem_append_left _ ?_)
    simp [Task.copied, readTree, missing, Except.toOption]
  · intro tree nodes hood _ _ expanded _ _ _ whole n shown
    rcases methods : (Run.writeMethods options.output tree methodFile (Run.shown hood)).exec expanded
      with ⟨failure | _, after⟩
    · -- A method that cannot be written is a failure to write.
      rw [Job.exec_bind, methods] at whole
      have write := Job.OnlyWrites.writeMethods _ _ _ _ _ _ _ methods
      simp [Job.canWrite, whole, write] at writable
    · rw [Job.exec_bind_of_ok methods] at whole
      have rows : ((attempt options task).run w).1 =
          some ⟨(Run.shown hood).map nodeRow, Run.edgeRows hood⟩ := by
        rw [run_attempt, whole]
        rfl
      refine elsewhere _ (List.mem_append_right _ ?_)
      rw [rows]
      simp only [Option.toList_some, List.flatMap_cons, List.flatMap_nil, List.append_nil, List.map_map]
      exact List.mem_map.mpr ⟨n, shown, rfl⟩

/-- A task spares what is at none of the places it writes to. -/
theorem spares_attempt {kept : Location → Prop} (options : RunContext) (task : Task) (w : Workspace)
    (writable : (work options task).canWrite w = true)
    (elsewhere : ∀ path ∈ written options task w, ¬ kept (FileStore.place path)) :
    FileStore.Spares kept w.files ((attempt options task).run w).2.files := by
  rw [files_attempt]
  exact spares_work options task w writable elsewhere

end Task

/-! ### Files that a run writes -/

namespace Run

/-- The tasks of a run, with the workspace that each starts in. -/
def starts (options : RunContext) : List Task → Workspace → List (Task × Workspace)
  | [], _ => []
  | task :: rest, w => (task, w) :: starts options rest ((Task.attempt options task).run w).2

/-- Every task of a run starts once, in order. -/
@[simp]
theorem map_fst_starts (options : RunContext) (tasks : List Task) (w : Workspace) :
    (starts options tasks w).map Prod.fst = tasks := by
  induction tasks generalizing w with
  | nil => rfl
  | cons task rest ih => rw [starts, List.map_cons, ih]

/-- What starts in a run is one of its tasks. -/
theorem mem_of_mem_starts {options : RunContext} {tasks : List Task} {w : Workspace}
    {s : Task × Workspace} (among : s ∈ starts options tasks w) : s.1 ∈ tasks := by
  rw [← map_fst_starts options tasks w]
  exact List.mem_map_of_mem among

/-- What the tasks of a run give is what each gives where it starts. -/
theorem attemptAll_eq_map_starts (options : RunContext) (tasks : List Task) (w : Workspace) :
    ((Task.attemptAll options tasks).run w).1 =
      (starts options tasks w).map fun s => ((Task.attempt options s.1).run s.2).1 := by
  induction tasks generalizing w with
  | nil => rfl
  | cons task rest ih =>
    rw [Task.run_attemptAll_cons, starts, List.map_cons, ← ih]

/-- Every task of a run is attempted once. -/
@[simp]
theorem length_attemptAll (options : RunContext) (tasks : List Task) (w : Workspace) :
    ((Task.attemptAll options tasks).run w).1.length = tasks.length := by
  rw [attemptAll_eq_map_starts, List.length_map, ← List.length_map Prod.fst, map_fst_starts]

/-- Numbers drawn by a task have been drawn when the run ends. -/
theorem ids_attempt_le {options : RunContext} {tasks : List Task} {w : Workspace}
    {s : Task × Workspace} (among : s ∈ starts options tasks w) :
    ((Task.attempt options s.1).run s.2).2.ids ≤ ((Task.attemptAll options tasks).run w).2.ids := by
  induction tasks generalizing w with
  | nil => cases among
  | cons task rest ih =>
    rw [Task.run_attemptAll_cons]
    rw [starts] at among
    rcases List.mem_cons.mp among with rfl | later
    · exact Task.attemptAll_draws options rest _
    · exact ih later

/-- The tasks of a run change no file but those that they write. -/
theorem spares_starts (kept : Location → Prop) (options : RunContext) (tasks : List Task)
    (w : Workspace)
    (writable : ∀ s ∈ starts options tasks w, (Task.work options s.1).canWrite s.2 = true)
    (elsewhere : ∀ s ∈ starts options tasks w, ∀ path ∈ Task.written options s.1 s.2,
      ¬ kept (FileStore.place path)) :
    FileStore.Spares kept w.files ((Task.attemptAll options tasks).run w).2.files ∧
      ∀ s ∈ starts options tasks w, FileStore.Spares kept w.files s.2.files ∧
        FileStore.Spares kept s.2.files ((Task.attemptAll options tasks).run w).2.files := by
  induction tasks generalizing w with
  | nil =>
    refine ⟨.refl kept _, fun s among => ?_⟩
    cases among
  | cons task rest ih =>
    rw [starts, List.forall_mem_cons] at writable elsewhere
    have first := Task.spares_attempt options task w writable.1 elsewhere.1
    obtain ⟨others, each⟩ := ih ((Task.attempt options task).run w).2 writable.2 elsewhere.2
    rw [Task.run_attemptAll_cons]
    refine ⟨first.trans others, fun s among => ?_⟩
    rw [starts] at among
    rcases List.mem_cons.mp among with rfl | later
    · exact ⟨.refl kept _, first.trans others⟩
    · exact ⟨first.trans (each s later).1, (each s later).2⟩

end Run

end DefectGraph
