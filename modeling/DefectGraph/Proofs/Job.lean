import DefectGraph.Proofs.FileStore
import DefectGraph.Proofs.Numbering
import DefectGraph.Run

/-!
# Jobs and the numbers they draw

## Main Definitions

* `Job.exec` - what a job gives in a workspace, with the workspace after it.
* `Frame` - a relation between the workspaces before and after.
* `Job.Keeps` - a job that relates the workspaces before and after, whether it is done or fails.

## Main Statements

* `Job.exec_bind_ok` - a sequence of jobs is done when both are.
* `Job.keeps_writeFile`, `Job.keeps_readSource` and others - steps on files draw no numbers.
* `Job.writeTable_ok` - a table that was written is in its file, and nothing else has changed.
* `Task.keeps_work` - a task only draws numbers.

## Design Notes

A job is a state transformer that may fail, and its effects stay when it does. `Job.exec` runs one without
the layers of the monad showing, and `Job.exec_bind_ok` takes a sequence apart; proofs about jobs use these
two and never unfold the monad. A `Frame` is a preorder on workspaces, so that one set of lemmas,
`Job.Keeps.pure`, `Job.Keeps.bind` and so on, serves numbers here and files in `Proofs.TaskFiles`.
-/

namespace DefectGraph

open DefectGraph.Graph DefectGraph.Source

/-- A relation between the workspaces before and after that holds when nothing happens and over two
steps when it holds over each. -/
structure Frame where
  holds : Workspace → Workspace → Prop
  refl : ∀ w, holds w w
  trans : ∀ {before between after}, holds before between → holds between after → holds before after

/-- No numbers are drawn. -/
def Frame.ids : Frame :=
  ⟨fun before after => after.ids = before.ids, fun _ => rfl, fun first second => second.trans first⟩

/-- Numbers are only drawn, never given back. -/
def Frame.draws : Frame :=
  ⟨fun before after => before.ids ≤ after.ids, fun w => w.ids.le_refl, Ids.le_trans⟩

namespace Job

variable {α β : Type} {frame : Frame}

/-- What a job gives in a workspace, and the workspace after it. -/
def exec (job : Job α) (w : Workspace) : Except Failure α × Workspace := (ExceptT.run job).run w

/-- A job that fails stops those behind it, and what it has done to the workspace stays. -/
theorem exec_bind (job : Job α) (next : α → Job β) (w : Workspace) :
    (job >>= next).exec w =
      match job.exec w with
      | (.ok a, between) => (next a).exec between
      | (.error failure, between) => (.error failure, between) := by
  have unfolded : (job >>= next).exec w = ExceptT.bindCont next (job.exec w).1 (job.exec w).2 := rfl
  rw [unfolded]
  rcases job.exec w with ⟨failure | a, between⟩
  · rfl
  · rfl

/-- A sequence of jobs is done when both are. -/
theorem exec_bind_ok {job : Job α} {next : α → Job β} {w after : Workspace} {b : β} :
    (job >>= next).exec w = (.ok b, after) ↔
      ∃ a between, job.exec w = (.ok a, between) ∧ (next a).exec between = (.ok b, after) := by
  rw [exec_bind]
  rcases job.exec w with ⟨failure | a, between⟩
  · simp
  · simp

/-- After a job that is done, the next one goes on in the workspace after it. -/
theorem exec_bind_of_ok {job : Job α} {next : α → Job β} {w between : Workspace} {a : α}
    (done : job.exec w = (.ok a, between)) : (job >>= next).exec w = (next a).exec between := by
  rw [exec_bind, done]

@[simp]
theorem exec_pure (a : α) (w : Workspace) : (pure a : Job α).exec w = (.ok a, w) := rfl

@[simp]
theorem exec_throw (failure : Failure) (w : Workspace) :
    (throw failure : Job α).exec w = (.error failure, w) := rfl

@[simp]
theorem exec_get (w : Workspace) : (get : Job Workspace).exec w = (.ok w, w) := rfl

@[simp]
theorem exec_lift (work : StateM Workspace α) (w : Workspace) :
    (liftM work : Job α).exec w = (.ok (work.run w).1, (work.run w).2) := rfl

/-- A job whose outcome holds a result is done. -/
theorem exec_ok_of_toOption {job : Job α} {w : Workspace}
    (some : (job.exec w).1.toOption.isSome = true) : ∃ a, job.exec w = (.ok a, (job.exec w).2) := by
  rcases outcome : job.exec w with ⟨failure | a, after⟩
  · simp [outcome, Except.toOption] at some
  · exact ⟨a, rfl⟩

/-- The workspaces before and after the job are related, whether it is done or fails. -/
def Keeps (frame : Frame) (job : Job α) : Prop := ∀ w, frame.holds w (job.exec w).2

/-- A relation holds over a sequence of jobs when it holds over each of them. -/
theorem holds_bind {job : Job α} {next : α → Job β} {w : Workspace}
    (first : frame.holds w (job.exec w).2)
    (second : ∀ a between, job.exec w = (.ok a, between) →
      frame.holds between ((next a).exec between).2) :
    frame.holds w ((job >>= next).exec w).2 := by
  rw [exec_bind]
  rcases outcome : job.exec w with ⟨failure | a, between⟩
  · rw [outcome] at first
    exact first
  · rw [outcome] at first
    exact frame.trans first (second a between outcome)

namespace Keeps

theorem pure (a : α) : Keeps frame (Pure.pure a : Job α) := fun w => frame.refl w

theorem throw (failure : Failure) : Keeps frame (MonadExcept.throw failure : Job α) :=
  fun w => frame.refl w

/-- Jobs that keep something keep it one after the other. -/
theorem bind {job : Job α} {next : α → Job β} (first : job.Keeps frame)
    (second : ∀ a, (next a).Keeps frame) : (job >>= next).Keeps frame :=
  fun w => holds_bind (first w) fun a between _ => second a between

theorem get : Keeps frame (MonadState.get : Job Workspace) := fun w => frame.refl w

/-- A job that draws no numbers only draws numbers. -/
theorem draws {job : Job α} (keeps : job.Keeps .ids) : job.Keeps .draws := by
  intro w
  have same : (job.exec w).2.ids = w.ids := keeps w
  change w.ids ≤ (job.exec w).2.ids
  rw [same]
  exact w.ids.le_refl

/-- After a job that draws no numbers and is done, the counts are what they were. -/
theorem ids_eq {job : Job α} (keeps : job.Keeps .ids) {w after : Workspace} {a : α}
    (done : job.exec w = (.ok a, after)) : after.ids = w.ids := by
  have same := keeps w
  rwa [done] at same

end Keeps

/-- Drawing a number never goes back. -/
theorem keeps_drawNode : drawNode.Keeps .draws := fun _ => ⟨Nat.le_succ _, Nat.le_refl _⟩

/-! ### Steps that draw no numbers -/

theorem keeps_report (notices : List Notice) : (report notices).Keeps .ids := fun _ => rfl

theorem keeps_ask (failure : FileError → Failure) (question : FileStore → Except FileError α) :
    (ask failure question).Keeps .ids := by
  refine .bind .get fun w => ?_
  split
  · exact .pure _
  · exact .throw _

theorem keeps_change (failure : FileError → Failure)
    (action : FileStore → Except FileError FileStore) : (change failure action).Keeps .ids :=
  .bind (keeps_ask failure action) fun _ _ => rfl

/-- Reading a source draws no numbers. -/
theorem keeps_readSource (path : Path) : (readSource path).Keeps .ids := by
  refine .bind (keeps_ask _ _) fun bytes => ?_
  split
  · exact .pure _
  · exact .bind (keeps_report _) fun _ => .pure _

/-- Making directories draws no numbers. -/
theorem keeps_makeParents (path : Path) : (makeParents path).Keeps .ids := by
  unfold makeParents
  split
  · exact keeps_change _ _
  · exact .pure _

theorem keeps_writeFile (root rel : Path) (content : Bytes) :
    (writeFile root rel content).Keeps .ids :=
  .bind (keeps_makeParents _) fun _ => keeps_change _ _

/-- Copying a source draws no numbers. -/
theorem keeps_copyOnce (source root rel : Path) : (copyOnce source root rel).Keeps .ids := by
  refine .bind .get fun w => ?_
  split
  · exact .pure _
  · exact .bind (keeps_makeParents _) fun _ => keeps_change _ _

theorem keeps_writeTable (table : Csv.Table) (path : Path) : (writeTable table path).Keeps .ids := by
  unfold writeTable
  split
  · exact .bind (keeps_makeParents _) fun _ => keeps_change _ _
  · exact keeps_change _ _

/-! ### Files -/

/-- A question leaves the workspace alone, whatever the answer. -/
theorem exec_ask (failure : FileError → Failure) (question : FileStore → Except FileError α)
    (w : Workspace) :
    (ask failure question).exec w =
      match question w.files with
      | .ok a => (.ok a, w)
      | .error e => (.error (failure e), w) := by
  rw [ask, exec_bind]
  simp only [exec_get]
  cases question w.files with
  | ok a => rfl
  | error e => rfl

/-- A change of the files is made, or fails and leaves them as they are. -/
theorem exec_change (failure : FileError → Failure)
    (action : FileStore → Except FileError FileStore) (w : Workspace) :
    (change failure action).exec w =
      match action w.files with
      | .ok files => (.ok (), { w with files })
      | .error e => (.error (failure e), w) := by
  rw [change, exec_bind, exec_ask]
  cases action w.files with
  | ok files => rfl
  | error e => rfl

/-- A change that is made is the one that was asked for. -/
theorem change_ok {failure : FileError → Failure} {action : FileStore → Except FileError FileStore}
    {w after : Workspace} {u : Unit} (done : (change failure action).exec w = (.ok u, after)) :
    action w.files = .ok after.files := by
  rw [exec_change] at done
  cases answer : action w.files with
  | error e => simp [answer] at done
  | ok files =>
    simp only [answer] at done
    cases done
    rfl

/-- Making the directories of a path keeps whatever is somewhere already. -/
theorem makeParents_ok {path : Path} {w after : Workspace} {u : Unit} {l : Location}
    (done : (makeParents path).exec w = (.ok u, after)) (there : w.files.at? l ≠ none) :
    FileStore.Kept l w.files after.files := by
  unfold makeParents at done
  split at done
  · exact (FileStore.grown_makeDirectories (change_ok done)).kept there
  · cases done
    exact .refl l _

/-- A table that was written is in its file, and no other place has changed. -/
theorem writeTable_ok {table : Csv.Table} {path : Path} {w after : Workspace} {u : Unit}
    (done : (writeTable table path).exec w = (.ok u, after)) :
    (∃ l, after.files.locate path = .ok l ∧
      after.files.at? l = some (.file (Text.Utf8.encode table.text))) ∧
    ∀ l, w.files.at? l ≠ none → (∀ s : FileStore, ∀ place, s.locate path = .ok place → l ≠ place) →
      FileStore.Kept l w.files after.files := by
  unfold writeTable at done
  split at done
  · obtain ⟨_, between, made, written⟩ := exec_bind_ok.mp done
    refine ⟨FileStore.at?_write (change_ok written), fun l there elsewhere => ?_⟩
    exact (makeParents_ok made there).trans (FileStore.kept_write (change_ok written) (elsewhere _))
  · refine ⟨FileStore.at?_write (change_ok done), fun l _ elsewhere => ?_⟩
    exact FileStore.kept_write (change_ok done) (elsewhere _)

/-- Reading the records leaves the workspace alone. -/
theorem readRecords_ok {path : Path} {w after : Workspace} {records : List BugRecord}
    (done : (readRecords path).exec w = (.ok records, after)) :
    BugRecord.readAll w.files path = .ok records ∧ after = w := by
  obtain ⟨now, _, got, rest⟩ := exec_bind_ok.mp done
  cases got
  cases answer : BugRecord.readAll w.files path with
  | error e => simp [answer] at rest
  | ok read =>
    simp only [answer, exec_pure, Prod.mk.injEq, Except.ok.injEq] at rest
    obtain ⟨rfl, rfl⟩ := rest
    exact ⟨rfl, rfl⟩

end Job

/-! ### Steps of a run -/

namespace Run

/-- Reading a tree draws no numbers, whatever the reader. -/
theorem keeps_readTree (reader : Reader) (path : Path) : (readTree reader path).Keeps .ids := by
  refine .bind (Job.keeps_readSource path) fun text => ?_
  split
  · exact .bind (Job.keeps_report _) fun _ => .pure _
  · exact .throw _

theorem keeps_writeMethods (output : Path) (tree : Tree) (file : Node → Path) (nodes : List Node) :
    (writeMethods output tree file nodes).Keeps .ids := by
  induction nodes with
  | nil => exact .pure ()
  | cons n rest ih => exact .bind (Job.keeps_writeFile _ _ _) fun _ => ih

/-- Expanding extracts, filters and numbers, unless there is an overflow. -/
theorem exec_expand (template : Template) (tree : Tree) (marker : String) (keepIsolated : Bool)
    (seeds : List Node) (w : Workspace) :
    (expand template tree marker keepIsolated seeds).exec w =
      match extract? template tree seeds w.ids with
      | none => (.error .overflow, w)
      | some (extracted, _, ids) =>
        (.ok ((extracted.filter marker).partition keepIsolated ids).1,
          { w with ids := ((extracted.filter marker).partition keepIsolated ids).2.2 }) := by
  rw [expand, Job.exec_bind]
  simp only [Job.exec_get]
  rcases extract? template tree seeds w.ids with _ | ⟨extracted, events, ids⟩
  · rfl
  · rfl

/-- Expanding seeds draws numbers forward only. -/
theorem keeps_expand (template : Template) (tree : Tree) (marker : String) (keepIsolated : Bool)
    (seeds : List Node) : (expand template tree marker keepIsolated seeds).Keeps .draws := by
  intro w
  rw [exec_expand]
  rcases answer : extract? template tree seeds w.ids with _ | ⟨extracted, events, ids⟩
  · exact Frame.draws.refl w
  · obtain ⟨nodes, groups⟩ := extract?_counts answer
    obtain ⟨sameNodes, moreGroups⟩ := partition_counts (extracted.filter marker) keepIsolated ids
    exact ⟨sameNodes ▸ nodes, groups ▸ moreGroups⟩

/-- The seeds of a prediction have the numbers drawn for them. -/
theorem predictionSeeds_ok {tree : Tree} {decls : List Declaration} {w after : Workspace}
    {nodes : List Node} (done : (predictionSeeds tree decls).exec w = (.ok nodes, after)) :
    SeedsDrawn w.ids after.ids nodes := by
  induction decls generalizing w nodes with
  | nil =>
    cases done
    exact .nil _
  | cons d rest ih =>
    unfold predictionSeeds at done
    split at done
    · obtain ⟨id, drawn, draw, others⟩ := Job.exec_bind_ok.mp done
      obtain ⟨seeds, between, recursive, result⟩ := Job.exec_bind_ok.mp others
      cases draw
      cases result
      exact (ih recursive).cons rfl rfl
    · exact ih done

end Run

/-! ### Tasks -/

namespace Task

theorem keeps_seeds (source : SourceVersion) (tree : Tree) (records : List BugRecord) :
    (seeds source tree records).Keeps .draws := by
  induction records with
  | nil => exact .pure _
  | cons r rest ih =>
    unfold seeds
    split
    · exact .bind (Job.keeps_report _).draws fun _ => ih
    · exact .bind (Job.keeps_report _).draws fun _ => .bind Job.keeps_drawNode fun _ =>
        .bind ih fun _ => .pure _

/-- The seeds of a task have the numbers drawn for them. -/
theorem seeds_ok {source : SourceVersion} {tree : Tree} {records : List BugRecord}
    {w after : Workspace} {nodes : List Node}
    (done : (seeds source tree records).exec w = (.ok nodes, after)) :
    SeedsDrawn w.ids after.ids nodes := by
  induction records generalizing w nodes with
  | nil =>
    cases done
    exact .nil _
  | cons r rest ih =>
    unfold seeds at done
    split at done
    · obtain ⟨_, noted, report, others⟩ := Job.exec_bind_ok.mp done
      cases report
      -- A notice changes no counts.
      have drawn := ih others
      exact drawn
    · obtain ⟨_, noted, report, others⟩ := Job.exec_bind_ok.mp done
      cases report
      obtain ⟨id, drawn, draw, others⟩ := Job.exec_bind_ok.mp others
      obtain ⟨seeds, between, recursive, result⟩ := Job.exec_bind_ok.mp others
      cases draw
      cases result
      have drawn := ih recursive
      exact drawn.cons rfl rfl

/-- A task only draws numbers, also when it fails. -/
theorem keeps_work (options : RunContext) (task : Task) : (work options task).Keeps .draws := by
  refine .bind (Run.keeps_readTree _ _).draws fun tree => ?_
  refine .bind (Job.keeps_copyOnce _ _ _).draws fun _ => ?_
  refine .bind (keeps_seeds _ _ _) fun seeds => ?_
  split
  · exact .pure _
  · exact .bind (Run.keeps_expand _ _ _ _ _) fun _ =>
      .bind (Run.keeps_writeMethods _ _ _ _).draws fun _ => .pure _

end Task

end DefectGraph
