import DefectGraph.Proofs.SourceKeys
import DefectGraph.Proofs.TaskIsolation

/-!
# Files by their names

What a task leaves alone can be told by the names of files: an attempt writes files named for the key of
its source and for the numbers that it draws, and no others.

## Main Definitions

* `FileStore.Named` - the places of files of a name.
* `Task.Avoids` - a name that an attempt at a task gives to no file.

## Main Statements

* `Job.writeFile_ok`, `Job.copyOnce_ok` - a file that was written or copied can be read.
* `Run.writeMethods_ok` - after all methods are written, each is in its file.
* `Task.keyBytes_eq_iff` - the bytes of a key tell the source of a task that can be read and copied.
* `Task.spares_attempt_named`, `Task.spares_attemptAll_named` - attempts change no file of a name that they
  avoid, whether they are done or fail.
* `Run.starts_split` - the tasks before and after a task of a run.

## Design Notes

Whether two paths lead to one place depends on the directories in the store, and whether two names differ
does not. `FileStore.Named` collects the places by their last part alone, so that what an attempt avoids can
be decided from the numbers it draws and the key of its source.
-/

namespace DefectGraph

open DefectGraph.Graph DefectGraph.Source

/-- The place is that of a file of the given name. -/
def FileStore.Named (name : String) (l : Location) : Prop := l.getLast? = some name

/-- The content of the file at a place, if there is one. -/
def FileStore.fileAt? (s : FileStore) (l : Location) : Option Bytes :=
  match s.at? l with
  | some (.file content) => some content
  | _ => none

@[simp]
theorem FileStore.fileAt?_eq_some_iff {s : FileStore} {l : Location} {content : Bytes} :
    s.fileAt? l = some content ↔ s.at? l = some (.file content) := by
  unfold fileAt?
  rcases s.at? l with _ | _ | _ <;> simp

/-- A file that could be read still can where directories stay and its place holds the file that it held. -/
theorem FileStore.read_of_fileAt? {before after : FileStore} {p : Path} {content : Bytes}
    (directories : ∀ l, before.at? l = some .directory → after.at? l = some .directory)
    (same : after.fileAt? (place p) = before.fileAt? (place p)) (read : before.read p = .ok content) :
    after.read p = .ok content := by
  have spares : Spares (fun l => l = place p) before after := by
    refine ⟨directories, ?_⟩
    rintro l rfl other
    rw [← fileAt?_eq_some_iff, same, fileAt?_eq_some_iff]
  exact spares.read rfl read

theorem FileStore.isUsable_of_read {s : FileStore} {p : Path} {content : Bytes}
    (read : s.read p = .ok content) : IsUsable p := by
  obtain ⟨l, found, _⟩ := (read_ok_iff s p content).mp read
  exact ((locate_ok_iff s p l).mp found).1

/-! ### Files that were written -/

namespace Job

/-- A file that has been written is there. -/
theorem writeFile_ok {root rel : Path} {content : Bytes} {w after : Workspace} {u : Unit}
    (done : (writeFile root rel content).exec w = (.ok u, after)) :
    after.files.read (root.join rel) = .ok content := by
  obtain ⟨_, between, _, written⟩ := exec_bind_ok.mp done
  obtain ⟨l, found, there⟩ := FileStore.at?_write (change_ok written)
  exact FileStore.read_of_at? found there

/-- A path that something is copied to can lead somewhere, and the copy can be read there if nothing was
there before. -/
theorem copyOnce_ok {source root rel : Path} {w after : Workspace} {u : Unit}
    (done : (copyOnce source root rel).exec w = (.ok u, after)) :
    FileStore.IsUsable (root.join rel) ∧
      ∀ content, w.files.read source = .ok content →
        w.files.at? (FileStore.place (root.join rel)) = none →
        after.files.read (root.join rel) = .ok content := by
  obtain ⟨_, _, got, done⟩ := exec_bind_ok.mp done
  cases got
  have located : ∀ l, w.files.locate (root.join rel) = .ok l → FileStore.IsUsable (root.join rel) ∧
      FileStore.place (root.join rel) = l := by
    intro l found
    obtain ⟨usable, _, place⟩ := (FileStore.locate_ok_iff_way _ _ _).mp found
    exact ⟨usable, place⟩
  split at done
  · rename_i present
    cases found : w.files.locate (root.join rel) with
    | error e => simp [FileStore.hasPath, FileStore.find, found, bind, Except.bind] at present
    | ok l =>
      obtain ⟨usable, rfl⟩ := located l found
      refine ⟨usable, fun content _ free => ?_⟩
      simp [FileStore.hasPath, FileStore.find, found, free, bind, Except.bind, throw, throwThe,
        MonadExceptOf.throw] at present
  · obtain ⟨_, between, made, copying⟩ := exec_bind_ok.mp done
    obtain ⟨copied, readCopied, written⟩ := FileStore.copy_ok (change_ok copying)
    obtain ⟨l, found, there⟩ := FileStore.at?_write written
    refine ⟨((FileStore.locate_ok_iff _ _ _).mp found).1, fun content readSource _ => ?_⟩
    -- Making directories leaves the source as it is, so what is copied is what was read.
    have spares := @spares_makeParents (fun _ => True) (root.join rel) w
    rw [made] at spares
    have same := FileStore.Spares.read spares trivial readSource
    rw [readCopied] at same
    cases same
    exact FileStore.read_of_at? found there

/-- The text of a source is that of the bytes in its file. -/
theorem readSource_ok {path : Path} {w after : Workspace} {text : String}
    (done : (readSource path).exec w = (.ok text, after)) :
    ∃ content, w.files.read path = .ok content ∧ text = Text.Utf8.decodeLossy content := by
  obtain ⟨content, between, asked, done⟩ := exec_bind_ok.mp done
  rw [exec_ask] at asked
  cases answer : w.files.read path with
  | error e => simp [answer] at asked
  | ok found =>
    simp only [answer] at asked
    cases asked
    refine ⟨content, rfl, ?_⟩
    cases decoded : Text.Utf8.decode? content with
    | some whole =>
      simp only [decoded] at done
      cases done
      exact (Text.Utf8.decodeLossy_of_decode? decoded).symm
    | none =>
      simp only [decoded] at done
      cases done
      rfl

end Job

/-- After all methods are written, each is in its file, where no two files have the same place. -/
theorem Run.writeMethods_ok {output : Path} {tree : Tree} {file : Node → Path} {nodes : List Node}
    {w after : Workspace} {u : Unit}
    (apart : (nodes.map fun n => FileStore.place (output.join (file n))).Nodup)
    (done : (writeMethods output tree file nodes).exec w = (.ok u, after)) :
    ∀ n ∈ nodes, after.files.read (output.join (file n)) = .ok (tree.bytesOf n.decl) := by
  induction nodes generalizing w with
  | nil => simp
  | cons first rest ih =>
    obtain ⟨_, between, written, others⟩ := Job.exec_bind_ok.mp done
    rw [List.map_cons, List.nodup_cons] at apart
    rw [List.forall_mem_cons]
    refine ⟨?_, ih apart.2 others⟩
    have spares := @spares_writeMethods (fun l => l = FileStore.place (output.join (file first)))
      output tree file rest (fun n among same => apart.1 (same ▸ List.mem_map_of_mem among)) between
    rw [others] at spares
    exact FileStore.Spares.read spares rfl (Job.writeFile_ok written)

/-! ### Keys of tasks -/

namespace Task

/-- A source that was read and has a path for its copy is plain. -/
theorem isPlain_of_usable {options : RunContext} {task : Task} {w after : Workspace} {text : String}
    (read : (Job.readSource (task.sourcePath options)).exec w = (.ok text, after))
    (usable : FileStore.IsUsable (options.output.join task.source.classFile)) : task.source.IsPlain where
  project := by
    intro zero
    refine FileStore.zero_notMem_of_isUsable usable ?_
    simp [SourceVersion.classFile, zero]
  sourceFile := by
    obtain ⟨content, isContent, _⟩ := Job.readSource_ok read
    exact FileStore.zero_notMem_of_isUsable (FileStore.isUsable_of_read isContent)

/-- The bytes that a key is drawn from tell the source of a task, whatever its hash is, when no zero is in
its project and its source file. So it is for every task whose source was read and copied. -/
theorem keyBytes_eq_iff :
    (∀ t t' : Task, t.source.IsPlain → t'.source.IsPlain →
      (t.source.keyBytes = t'.source.keyBytes ↔
        t.source.project = t'.source.project ∧ t.source.hash = t'.source.hash ∧
          t.source.sourceFile = t'.source.sourceFile)) ∧
    ∀ (options : RunContext) (t : Task) (w opened after : Workspace) (text : String),
      (Job.readSource (t.sourcePath options)).exec w = (.ok text, opened) →
      (Job.copyOnce (t.sourcePath options) options.output t.source.classFile).exec opened =
        (.ok (), after) →
      t.source.IsPlain := by
  refine ⟨fun t t' plain plainToo => ⟨fun same => ?_, ?_⟩, ?_⟩
  · rw [SourceVersion.eq_of_keyBytes_eq plain plainToo same]
    exact ⟨rfl, rfl, rfl⟩
  · rintro ⟨project, hash, sourceFile⟩
    rw [SourceVersion.keyBytes, SourceVersion.keyBytes, project, hash, sourceFile]
  · intro options t w opened after text read copy
    exact isPlain_of_usable read (Job.copyOnce_ok copy).1

/-- A task without records. -/
def idleTask (hash : String) : Task := ⟨⟨"p", hash, "A"⟩, []⟩

/-- The hashes of two tasks hold zeros, and the source of the first is read and copied. -/
theorem keyBytes_eq_iff_of_zeros :
    (idleTask "1\x00").source.IsPlain ∧ (idleTask "1\x00\x00").source.IsPlain ∧
      (idleTask "1\x00").source.keyBytes ≠ (idleTask "1\x00\x00").source.keyBytes := by
  obtain ⟨readable, copyable⟩ :
      ((Job.readSource ((idleTask "1\x00").sourcePath (Run.sampleOptions "in"))).exec
        (Run.soleSource [])).1.toOption.isSome = true ∧
      ((Job.copyOnce ((idleTask "1\x00").sourcePath (Run.sampleOptions "in"))
        (Run.sampleOptions "in").output (idleTask "1\x00").source.classFile).exec
          ((Job.readSource ((idleTask "1\x00").sourcePath (Run.sampleOptions "in"))).exec
            (Run.soleSource [])).2).1.toOption.isSome = true := by
    decide +kernel
  obtain ⟨text, read⟩ := Job.exec_ok_of_toOption readable
  obtain ⟨_, copy⟩ := Job.exec_ok_of_toOption copyable
  have plain := keyBytes_eq_iff.2 _ _ _ _ _ text read copy
  have plainToo : (idleTask "1\x00\x00").source.IsPlain := ⟨by decide, by decide⟩
  refine ⟨plain, plainToo, fun same => ?_⟩
  obtain ⟨_, hashes, _⟩ := (keyBytes_eq_iff.1 _ _ plain plainToo).mp same
  exact absurd hashes (by decide)

/-- A zero in a project can be taken for the end of it. -/
example : SourceVersion.keyBytes ⟨"p\x001", "2", "A"⟩ = SourceVersion.keyBytes ⟨"p", "1\x002", "A"⟩ := by
  decide +kernel

end Task

/-! ### Names that a task avoids -/

namespace Task

/-- An attempt at the task that draws the numbers between two counts gives no file the name. -/
structure Avoids (name : String) (start after : Ids) (task : Task) : Prop where
  notClass : task.source.IsPlain → name ≠ task.source.className
  notMethod : ∀ id, start.nodes ≤ id → id < after.nodes → name ≠ methodName id

/-- With fewer numbers drawn there is less to avoid. -/
theorem Avoids.mono {name : String} {start after first last : Ids} {task : Task}
    (avoids : task.Avoids name start after) (low : start ≤ first) (high : last ≤ after) :
    task.Avoids name first last :=
  ⟨avoids.notClass, fun id least most =>
    avoids.notMethod id (Nat.le_trans low.1 least) (Nat.lt_of_lt_of_le most high.1)⟩

/-- The numbers of the nodes around the seeds of a task are drawn while it is worked on. -/
theorem drawn_of_expand {source : SourceVersion} {tree : Tree} {records : List BugRecord}
    {template : Template} {marker : String} {keepIsolated : Bool} {nodes : List Node}
    {hood : Neighborhood} {w seeded expanded : Workspace}
    (seeding : (seeds source tree records).exec w = (.ok nodes, seeded))
    (expand : (Run.expand template tree marker keepIsolated nodes).exec seeded = (.ok hood, expanded))
    (distinct : expanded.ids.Distinct) :
    Ascending w.ids.nodes expanded.ids.nodes ((Run.shown hood).map Node.id) := by
  have tabled := Run.tabled_of_expand (seeds_ok seeding) expand distinct
  have ascending := tabled.ascending
  rw [List.map_map] at ascending
  exact ascending

/-- Whatever a task writes, directories stay. -/
theorem keeps_directories (options : RunContext) (task : Task) :
    (work options task).Keeps (.spares fun _ => False) :=
  fun _ => spares_work_of (fun _ _ _ _ _ never => never) fun _ _ _ _ _ _ _ _ _ _ _ _ never => never

/-- Working on a task changes no file of a name that it avoids, whether it is done or fails. -/
theorem spares_work_named (options : RunContext) (task : Task) (w : Workspace) {name : String}
    (distinct : ((work options task).exec w).2.ids.Distinct)
    (avoids : task.Avoids name w.ids ((work options task).exec w).2.ids) :
    FileStore.Spares (FileStore.Named name) w.files ((work options task).exec w).2.files := by
  have notClass := avoids.notClass
  have notMethod := avoids.notMethod
  refine spares_work_of ?_ ?_
  · intro tree parsed readTree _ usable named
    rw [FileStore.Named, SourceVersion.getLast?_place_classFile, Option.some.injEq] at named
    obtain ⟨_, _, isText, _⟩ := Job.exec_bind_ok.mp readTree
    exact notClass (isPlain_of_usable isText usable) named.symm
  · intro tree nodes hood copied seeded expanded copiedIds seeding expand whole n shown named
    have writes : (Run.writeMethods options.output tree methodFile (Run.shown hood) >>= fun _ =>
        pure ⟨(Run.shown hood).map nodeRow, Run.edgeRows hood⟩ : Job Rows).Keeps .ids :=
      .bind (Run.keeps_writeMethods _ _ _ _) fun _ => .pure _
    have lastIds : ((work options task).exec w).2.ids = expanded.ids := by
      rw [whole]
      exact writes expanded
    rw [lastIds] at distinct notMethod
    have drawn := drawn_of_expand seeding expand distinct
    rw [copiedIds] at drawn
    rw [FileStore.Named, getLast?_place_methodFile, Option.some.injEq] at named
    have among : n.id ∈ (Run.shown hood).map Node.id := List.mem_map_of_mem shown
    exact notMethod n.id (drawn.low _ among) (drawn.high _ among) named.symm

/-- A task spares the files with a name that it avoids. -/
theorem spares_attempt_named (options : RunContext) (task : Task) (w : Workspace) {name : String}
    (distinct : ((attempt options task).run w).2.ids.Distinct)
    (avoids : task.Avoids name w.ids ((attempt options task).run w).2.ids) :
    FileStore.Spares (FileStore.Named name) w.files ((attempt options task).run w).2.files := by
  rw [ids_attempt] at distinct avoids
  rw [files_attempt]
  exact spares_work_named options task w distinct avoids

/-- Attempts at tasks change no file of a name that all of them avoid. -/
theorem spares_attemptAll_named (options : RunContext) (tasks : List Task) (w : Workspace)
    {name : String} (distinct : ((attemptAll options tasks).run w).2.ids.Distinct)
    (avoids : ∀ task ∈ tasks, task.Avoids name w.ids ((attemptAll options tasks).run w).2.ids) :
    FileStore.Spares (FileStore.Named name) w.files ((attemptAll options tasks).run w).2.files := by
  induction tasks generalizing w with
  | nil => exact .refl _ _
  | cons task rest ih =>
    rw [run_attemptAll_cons] at distinct avoids ⊢
    rw [List.forall_mem_cons] at avoids
    have first := attempt_draws options task w
    have second := attemptAll_draws options rest ((attempt options task).run w).2
    have one := spares_attempt_named options task w (distinct.of_le second)
      (avoids.1.mono w.ids.le_refl second)
    exact one.trans (ih _ distinct fun other among =>
      (avoids.2 other among).mono first (Ids.le_refl _))

end Task

/-! ### A task among others -/

/-- Writing a table spares whatever is elsewhere. -/
theorem Job.spares_writeTable {kept : Location → Prop} (table : Csv.Table) (path : Path)
    (elsewhere : ¬ kept (FileStore.place path)) : (writeTable table path).Keeps (.spares kept) := by
  have writes : (change (.createTable path) fun files =>
      files.write path (Text.Utf8.encode table.text)).Keeps (.spares kept) :=
    spares_change fun _ _ written => FileStore.spares_write written fun _ => elsewhere
  unfold writeTable
  split
  · exact .bind (spares_makeParents _) fun _ => writes
  · exact writes

namespace Run

/-- The place of a table ends with its name. -/
theorem getLast?_place_table {table : String} (output : Path)
    (isTable : table = "nodes.csv" ∨ table = "edges.csv") :
    (FileStore.place (output.join table)).getLast? = some table := by
  have isName : FileStore.IsName table ∧ Path.isAbsolute table = false := by
    rcases isTable with rfl | rfl
    · exact ⟨⟨by decide, fun _ => by simp [FileStore.step]⟩, by decide⟩
    · exact ⟨⟨by decide, fun _ => by simp [FileStore.step]⟩, by decide⟩
  have plain : Path.parts table = [table] := by
    rw [Path.parts, FileStore.splitSlashes_plain isName.1.plain]
    simp
  obtain ⟨above, parts⟩ := FileStore.parts_join output table isName.2 plain
  exact FileStore.getLast?_place isName.1 parts

/-- No source is named like a table. -/
theorem java_ne_table (stem : String) : stem ++ ".java" ≠ "nodes.csv" ∧ stem ++ ".java" ≠ "edges.csv" := by
  have last : (stem ++ ".java").toList.getLast? = some 'a' := by
    rw [String.toList_append, List.getLast?_append]
    rfl
  constructor
  · intro same
    rw [same] at last
    exact absurd last (by decide)
  · intro same
    rw [same] at last
    exact absurd last (by decide)

/-- Writing the results changes no files but the tables. -/
theorem spares_writeResults (options : RunContext) (results : List (Option Rows)) {name : String}
    (notNodes : name ≠ "nodes.csv") (notEdges : name ≠ "edges.csv") :
    (writeResults options results).Keeps (.spares (FileStore.Named name)) := by
  have elsewhere : ∀ table, table = "nodes.csv" ∨ table = "edges.csv" → name ≠ table →
      ¬ FileStore.Named name (FileStore.place (options.output.join table)) := by
    intro table isTable other named
    rw [FileStore.Named, getLast?_place_table options.output isTable, Option.some.injEq] at named
    exact other named.symm
  exact .bind (Job.spares_writeTable _ _ (elsewhere _ (.inl rfl) notNodes)) fun _ =>
    .bind (Job.spares_writeTable _ _ (elsewhere _ (.inr rfl) notEdges)) fun _ => .pure _

/-- A task of a run starts where the tasks before it end, and the tasks after it start where it ends. -/
theorem starts_split {options : RunContext} {tasks : List Task} {w : Workspace} {s : Task × Workspace}
    (among : s ∈ starts options tasks w) :
    ∃ before later, tasks = before ++ s.1 :: later ∧
      s.2 = ((Task.attemptAll options before).run w).2 ∧
      ((Task.attemptAll options tasks).run w).2 =
        ((Task.attemptAll options later).run ((Task.attempt options s.1).run s.2).2).2 := by
  induction tasks generalizing w with
  | nil => cases among
  | cons task rest ih =>
    rw [starts] at among
    rcases List.mem_cons.mp among with rfl | later
    · refine ⟨[], rest, rfl, rfl, ?_⟩
      rw [Task.run_attemptAll_cons]
    · obtain ⟨before, others, rfl, start, final⟩ := ih later
      refine ⟨task :: before, others, rfl, ?_, ?_⟩
      · rw [start, Task.run_attemptAll_cons]
      · rw [Task.run_attemptAll_cons]
        exact final

end Run

end DefectGraph
