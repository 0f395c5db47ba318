import DefectGraph.Proofs.Arena
import DefectGraph.Proofs.DeclaredText
import DefectGraph.Proofs.NamedFiles
import DefectGraph.Proofs.NamedPaths
import DefectGraph.Proofs.Prediction
import DefectGraph.Proofs.TaskGroups

/-!
# The files behind the rows

Every row of nodes names a file with the text of its declaration and a copy of the source of its task. At
the end of a run they are there, whatever the other tasks have written, those that fail included.

## Main Definitions

* `SourceVersion.Describes` - what a node says of its source and its declaration.
* `Task.Shows` - the neighborhood that the rows of a task are made of.
* `Task.IsRow` - the row of a declaration of a task.
* `Run.CollisionFree`, `Run.SourcesKept` - what is asked of a run.

## Main Statements

* `LongName.declared_of_find` - a long name means a declaration of the file.
* `Graph.forall_nodes_expand` - what seeds and discovered nodes have in common, all nodes have.
* `Task.work_materialises` - what a task that is done leaves in its files.
* `Run.files_match_rows` - the files of a run are those that its rows name.

## Design Notes

A copy is only made where nothing is: what was there before the run stays, and so does a directory that an
earlier task has made there.

Nothing here depends on how sources are read, apart from `Reader.KeepsRanges`: the extents of declarations
have to be parts of the text for the files of the rows to hold that text.
-/

namespace DefectGraph

open DefectGraph.Graph DefectGraph.Source

/-! ### Nodes of tasks -/

/-- A long name means a declaration of the file. -/
theorem LongName.declared_of_find {longName : String} {t : Tree} {found : Match}
    (finds : find t longName = .ok found) : ∃ d, t.decl? found.decl = some d := by
  cases inPackage : afterPackage t.package longName with
  | error e => simp [find, inPackage, bind, Except.bind] at finds
  | ok rest =>
    cases decoded : LongName.params longName with
    | error e => simp [find, inPackage, decoded, bind, Except.bind] at finds
    | ok params =>
      rw [find_eq inPackage decoded] at finds
      simp only at finds
      split at finds
      · rename_i decl chosen
        cases finds
        obtain ⟨m, isMember, rfl⟩ := Option.map_eq_some_iff.mp chosen
        have present : m ∈ members t (acceptedAll ⟨t, params⟩ rest false 1 t.items).1 := by
          rcases Option.or_eq_some_iff.mp isMember with first | ⟨_, first⟩
          · exact List.mem_of_find?_eq_some first
          · exact List.mem_of_head? first
        obtain ⟨before, c, after, split, _, rfl⟩ := (mem_members_iff ..).mp present
        obtain ⟨_, _, _, _, accepted⟩ := exists_visits ⟨t, params⟩ c t.items rest false
          (split ▸ List.mem_append_right _ List.mem_cons_self)
        obtain ⟨d, declared, _⟩ := (Option.any_eq_true _ _).mp accepted
        -- What is chosen is the outermost member around a declaration.
        exact Tree.exists_decl?_outermost declared
      · cases finds

/-- A property of single nodes that the seeds and all discovered nodes have, and that flags, counts of
bugs and groups do not matter for, is one of all nodes around the seeds. -/
theorem Graph.forall_nodes_expand {template : Template} {tree : Tree} {marker : String}
    {keepIsolated : Bool} {seeds : List Node} {hood : Neighborhood} {start : Ids} {w after : Workspace}
    {Good : Node → Prop} (drawn : SeedsDrawn start w.ids seeds)
    (done : (Run.expand template tree marker keepIsolated seeds).exec w = (.ok hood, after))
    (discovered : ∀ decl id, (∃ source, PointsAt tree source decl) → Good (template.node tree decl id))
    (changed : ∀ (n : Node) (explicitSuper valid : Bool) (bugs : Int) (graphId : Option Nat), Good n →
      Good { n with explicitSuper, valid, bugs, graphId })
    (good : ∀ seed ∈ seeds, Good seed) : ∀ n ∈ hood.nodes, Good n := by
  rw [Run.exec_expand] at done
  rcases answer : extract? template tree seeds w.ids with _ | ⟨extracted, events, ids⟩
  · simp [answer] at done
  · simp only [answer] at done
    cases done
    have ungrouped := ((extracted_of_extract? drawn answer).filter marker).ungrouped
    have partitioned := partition_spec (extracted.filter marker) keepIsolated ids ungrouped
    obtain ⟨⟨merged, mergeEvents⟩, merge, _⟩ := Option.bind_eq_some_iff.mp answer
    rw [extract?_eq_some template tree w.ids merge] at answer
    cases answer
    have seeded := Seeded.ofSeeds merge
    have invariant : ExploreInvariant template tree fun p =>
        (∀ decl ∈ [], decl ∈ p.hood.keys) ∧ ∀ n ∈ p.hood.nodes, Good n :=
      .nodesApart [] (fun decl id _ points => discovered decl id points)
        fun n explicitSuper holds => changed n explicitSuper _ n.bugs n.graphId holds
    have atStart : ∀ n ∈ merged.nodes, Good n := by
      intro n present
      obtain ⟨seed, among, same⟩ := seeded.exists_seed present
      rw [same]
      exact changed seed _ _ n.bugs _ (good seed among)
    have explored := (invariant.exploreEach (.start merged w.ids mergeEvents) (seeds.map Node.decl)
      ⟨by simp, atStart⟩ fun decl => (seeded.keys decl).mpr).2
    -- Filtering leaves nodes out, and numbering changes nothing but their groups.
    intro n present
    have kept : n.withoutGroup ∈ _ := List.mem_map_of_mem (f := Node.withoutGroup) present
    rw [partitioned.nodes] at kept
    obtain ⟨old, among, same⟩ := List.mem_map.mp kept
    have before := explored old ((Neighborhood.nodes_filter_sublist _ marker).subset among)
    rw [Node.eq_of_withoutGroup same]
    exact changed old _ _ _ n.graphId before

/-- What a node says of its source and its declaration. -/
structure SourceVersion.Describes (source : SourceVersion) (tree : Tree) (n : Node) : Prop where
  classFile : n.classSourceFile = source.classFile
  declared : ∃ d, tree.decl? n.decl = some d ∧ n.signature = n.parent ++ "." ++ d.signature

namespace Task

/-- A seed says what its record and its declaration are. -/
theorem describes_seeds {source : SourceVersion} {tree : Tree} {records : List BugRecord}
    {w after : Workspace} {nodes : List Node}
    (done : (seeds source tree records).exec w = (.ok nodes, after)) :
    ∀ n ∈ nodes, source.Describes tree n := by
  induction records generalizing w nodes with
  | nil =>
    cases done
    simp
  | cons r rest ih =>
    unfold seeds at done
    split at done
    · obtain ⟨_, noted, _, others⟩ := Job.exec_bind_ok.mp done
      exact ih others
    · rename_i found finds
      obtain ⟨_, noted, _, others⟩ := Job.exec_bind_ok.mp done
      obtain ⟨id, drawn, _, others⟩ := Job.exec_bind_ok.mp others
      obtain ⟨seeds, between, recursive, result⟩ := Job.exec_bind_ok.mp others
      cases result
      obtain ⟨d, declared⟩ := LongName.declared_of_find finds
      refine List.forall_mem_cons.mpr ⟨⟨rfl, d, declared, ?_⟩, ih recursive⟩
      rw [seed, signature_of_decl? declared]

/-- The neighborhood is the one that the rows of a task are made of, when its source has the tree and the
given numbers have been drawn before. -/
def Shows (options : RunContext) (task : Task) (tree : Tree) (ids : Ids) (hood : Neighborhood) : Prop :=
  ∃ w nodes seeded after, w.ids = ids ∧
    (seeds task.source tree task.records).exec w = (.ok nodes, seeded) ∧
    (Run.expand task.template tree options.config.excludeMarker options.config.keepIsolated nodes).exec
      seeded = (.ok hood, after)

/-- So does every node that is shown. -/
theorem Shows.describes {options : RunContext} {task : Task} {tree : Tree} {ids : Ids}
    {hood : Neighborhood} (shows : task.Shows options tree ids hood) :
    ∀ n ∈ Run.shown hood, task.source.Describes tree n := by
  obtain ⟨w, nodes, seeded, after, _, seeding, expand⟩ := shows
  intro n shown
  refine forall_nodes_expand (seeds_ok seeding) expand ?_ ?_ (describes_seeds seeding) n
    (List.mem_filter.mp shown).1
  · rintro decl id ⟨source, points⟩
    obtain ⟨d, declared, _⟩ := points.callable
    refine ⟨rfl, d, declared, ?_⟩
    simp [Template.node, template, signature_of_decl? declared]
  · intro n _ _ _ _ describes
    exact ⟨describes.classFile, describes.declared⟩

/-- The row is that of the declaration, in a task whose source has the given content and that starts after
the given numbers have been drawn. -/
def IsRow (options : RunContext) (task : Task) (ids : Ids) (content : Bytes) (d : Declaration)
    (r : NodeRow) : Prop :=
  ∃ tree hood, options.reader.read (Text.Utf8.decodeLossy content) = some tree ∧
    task.Shows options tree ids hood ∧
    ∃ n ∈ Run.shown hood, tree.decl? n.decl = some d ∧ r = nodeRow n

end Task

/-- The bytes that a declaration takes in the text of a source with the given content. -/
def Source.Declaration.textIn (d : Declaration) (content : Bytes) : Bytes :=
  ((Text.Utf8.encode (Text.Utf8.decodeLossy content)).drop d.span.start).take
    (d.span.stop - d.span.start)

/-- A reader that keeps to the text gives a declaration the bytes that it takes in there. -/
theorem Source.Declaration.bytesOf_eq_textIn {reader : Reader} {content : Bytes} {tree : Tree}
    {d : Declaration} {id : DeclId} (ranged : reader.KeepsRanges)
    (read : reader.read (Text.Utf8.decodeLossy content) = some tree)
    (declared : tree.decl? id = some d) : tree.bytesOf id = d.textIn content := by
  have whole : tree.source = Text.Utf8.decodeLossy content := reader.source read
  have isIn : d.span.IsIn tree.source := by
    rw [whole]
    exact ranged _ _ read d (List.mem_of_getElem? declared)
  rw [Tree.bytesOf_of_isIn declared isIn, whole]
  rfl

/-! ### Files of a task -/

namespace Task

/-- Files of nodes with different numbers have different places. -/
theorem nodup_places (output : Path) {nodes : List Node} (numbers : (nodes.map Node.id).Nodup) :
    (nodes.map fun n => FileStore.place (output.join (methodFile n))).Nodup := by
  refine List.pairwise_map.mpr ((List.pairwise_map.mp numbers).imp fun {n m} other same => other ?_)
  have names := congrArg List.getLast? same
  rw [getLast?_place_methodFile, getLast?_place_methodFile, Option.some.injEq] at names
  exact methodName_inj names

/-- What a row says, and what is in the file with the text of its declaration. -/
structure RowFile (options : RunContext) (task : Task) (ids : Ids) (content : Bytes) (files : FileStore)
    (r : NodeRow) : Prop where
  classFile : r.classSourceFile = task.source.classFile
  method : ∃ d, task.IsRow options ids content d r ∧ r.signature = r.parent ++ "." ++ d.signature ∧
    files.read (options.output.join r.methodSourceFile) = .ok (d.textIn content)

/-- Writing methods leaves the copy of a source as it is, because no method has the name of the copy. -/
theorem read_classFile_of_writeMethods {options : RunContext} {task : Task} {tree : Tree}
    {nodes : List Node} {low high : Nat} {w after : Workspace} {u : Unit} {content : Bytes}
    (drawn : Ascending low high (nodes.map Node.id)) (few : high ≤ idLimit)
    (write : (Run.writeMethods options.output tree methodFile nodes).exec w = (.ok u, after))
    (there : w.files.read (options.output.join task.source.classFile) = .ok content) :
    after.files.read (options.output.join task.source.classFile) = .ok content := by
  have elsewhere : ∀ n ∈ nodes, ¬ FileStore.Named task.source.className
      (FileStore.place (options.output.join (methodFile n))) := by
    intro n shown named
    rw [FileStore.Named, getLast?_place_methodFile, Option.some.injEq] at named
    have small := Nat.lt_of_lt_of_le (drawn.high _ (List.mem_map_of_mem shown)) few
    exact task.source.className_ne_methodName small named.symm
  have spares := Run.spares_writeMethods options.output tree methodFile nodes elsewhere w
  rw [write] at spares
  exact FileStore.Spares.read spares (task.source.getLast?_place_classFile _) there

/-- What a task that is done leaves in its files. -/
theorem work_materialises {options : RunContext} {task : Task} {w after : Workspace} {rows : Rows}
    (ranged : options.reader.KeepsRanges)
    (done : (work options task).exec w = (.ok rows, after)) (distinct : after.ids.Distinct) :
    task.source.IsPlain ∧ ∃ content, w.files.read (task.sourcePath options) = .ok content ∧
      (w.files.at? (FileStore.place (options.output.join task.source.classFile)) = none →
        after.files.read (options.output.join task.source.classFile) = .ok content) ∧
      ∀ r ∈ rows.nodes, task.RowFile options w.ids content after.files r := by
  obtain ⟨tree, parsed, readTree, done⟩ := Job.exec_bind_ok.mp done
  obtain ⟨_, copied, copy, done⟩ := Job.exec_bind_ok.mp done
  obtain ⟨nodes, seeded, seeding, done⟩ := Job.exec_bind_ok.mp done
  obtain ⟨text, _, isText, isTree, _⟩ := Run.readTree_ok readTree
  obtain ⟨content, isContent, rfl⟩ := Job.readSource_ok isText
  obtain ⟨usable, copies⟩ := Job.copyOnce_ok copy
  rw [(Run.files_readTree _ _).files_eq readTree] at copies
  have seededFiles := (files_seeds _ _ _).files_eq seeding
  refine ⟨isPlain_of_usable isText usable, content, isContent, ?_⟩
  split at done
  · cases done
    refine ⟨fun free => ?_, by simp [Rows.none]⟩
    rw [seededFiles]
    exact copies content isContent free
  · obtain ⟨hood, expanded, expand, done⟩ := Job.exec_bind_ok.mp done
    obtain ⟨_, written, write, done⟩ := Job.exec_bind_ok.mp done
    cases done
    have startIds : copied.ids = w.ids :=
      ((Job.keeps_copyOnce _ _ _).ids_eq copy).trans ((Run.keeps_readTree _ _).ids_eq readTree)
    rw [(Run.keeps_writeMethods _ _ _ _).ids_eq write] at distinct
    have drawn := drawn_of_expand seeding expand distinct
    have shows : task.Shows options tree w.ids hood :=
      ⟨copied, nodes, seeded, expanded, startIds, seeding, expand⟩
    have methods := Run.writeMethods_ok (nodup_places options.output drawn.nodup) write
    constructor
    · intro free
      refine read_classFile_of_writeMethods drawn distinct.nodes write ?_
      rw [(Run.files_expand _ _ _ _ _).files_eq expand, seededFiles]
      exact copies content isContent free
    · intro r row
      obtain ⟨n, shown, rfl⟩ := List.mem_map.mp row
      obtain ⟨classFile, d, declared, signature⟩ := shows.describes n shown
      refine ⟨classFile, d, ⟨tree, hood, isTree, shows, n, shown, declared, rfl⟩, signature, ?_⟩
      rw [← Declaration.bytesOf_eq_textIn ranged isTree declared]
      exact methods n shown

end Task

/-- A task that gives rows is done. -/
theorem Task.work_of_rows? {options : RunContext} {task : Task} {w : Workspace} {rows : Rows}
    (given : Task.rows? options task w = some rows) :
    (Task.work options task).exec w = (.ok rows, ((Task.attempt options task).run w).2) := by
  rw [Task.rows?] at given
  rw [Task.run_attempt] at given ⊢
  rcases outcome : (Task.work options task).exec w with ⟨failure | result, after⟩
  · simp [outcome] at given
  · simp only [outcome, Option.some.injEq] at given ⊢
    rw [given]

/-! ### Files of a run -/

namespace Run

/-- No two tasks have the same key, unless it is drawn from the same bytes. -/
def CollisionFree (tasks : List Task) : Prop :=
  ∀ t ∈ tasks, ∀ t' ∈ tasks, t.source.key = t'.source.key → t.source.keyBytes = t'.source.keyBytes

/-- After a run the source of each task is the file that it was when the task started. -/
def SourcesKept (options : RunContext) (tasks : List Task) (w after : Workspace) : Prop :=
  ∀ s ∈ starts options tasks w,
    after.files.fileAt? (FileStore.place (s.1.sourcePath options)) =
      s.2.files.fileAt? (FileStore.place (s.1.sourcePath options))

instance (tasks : List Task) : Decidable (CollisionFree tasks) :=
  inferInstanceAs (Decidable (∀ t ∈ tasks, ∀ t' ∈ tasks, t.source.key = t'.source.key →
    t.source.keyBytes = t'.source.keyBytes))

instance (options : RunContext) (tasks : List Task) (w after : Workspace) :
    Decidable (SourcesKept options tasks w after) :=
  inferInstanceAs (Decidable (∀ s ∈ starts options tasks w,
    after.files.fileAt? (FileStore.place (s.1.sourcePath options)) =
      s.2.files.fileAt? (FileStore.place (s.1.sourcePath options))))

/-- The rows of nodes that the tasks of a run give, in order. -/
def nodeRows (options : RunContext) (tasks : List Task) (w : Workspace) : List NodeRow :=
  (starts options tasks w).flatMap fun s => (Task.rows? options s.1 s.2).toList.flatMap Rows.nodes

/-- The rows of a run are those of the tasks that are done. -/
theorem nodeRows_eq (options : RunContext) (tasks : List Task) (w : Workspace) :
    nodeRows options tasks w =
      (((Task.attemptAll options tasks).run w).1.filterMap id).flatMap Rows.nodes :=
  (flatMap_attemptAll options tasks w Rows.nodes).symm

/-- A run ends by writing the results of its tasks, which draws no numbers. -/
theorem writeResults_of_training {options : RunContext} {records : List BugRecord} {w after : Workspace}
    {summary : Summary} (read : BugRecord.readAll w.files options.input = .ok records)
    (done : (training options).exec w = (.ok summary, after)) :
    (writeResults options ((Task.attemptAll options (Task.group records)).run w).1).exec
        ((Task.attemptAll options (Task.group records)).run w).2 = (.ok summary, after) ∧
      after.ids = ((Task.attemptAll options (Task.group records)).run w).2.ids := by
  rw [exec_training read] at done
  have draws : (writeResults options ((Task.attemptAll options (Task.group records)).run w).1).Keeps
      .ids :=
    .bind (Job.keeps_writeTable _ _) fun _ => .bind (Job.keeps_writeTable _ _) fun _ => .pure _
  exact ⟨done, draws.ids_eq done⟩

section

variable {options : RunContext} {records : List BugRecord} {w after : Workspace} {summary : Summary}
  {s : Task × Workspace}

/-- The tasks before and after a task of a run are about other sources. -/
theorem starts_apart (among : s ∈ starts options (Task.group records) w) :
    ∃ before later, s.2 = ((Task.attemptAll options before).run w).2 ∧
      ((Task.attemptAll options (Task.group records)).run w).2 =
        ((Task.attemptAll options later).run ((Task.attempt options s.1).run s.2).2).2 ∧
      ∀ t ∈ before ++ later, t ∈ Task.group records ∧ t.source ≠ s.1.source := by
  obtain ⟨before, later, tasks, start, final⟩ := starts_split among
  refine ⟨before, later, start, final, fun t other => ?_⟩
  have distinct := (Task.Partitions.nil.fileAll records).distinct
  change ((Task.group records).map Task.source).Nodup at distinct
  rw [tasks, List.map_append, List.map_cons, List.nodup_middle, ← List.map_append,
    List.nodup_cons] at distinct
  constructor
  · rw [tasks]
    rcases List.mem_append.mp other with first | last
    · exact List.mem_append_left _ first
    · exact List.mem_append_right _ (List.mem_cons_of_mem _ last)
  · intro same
    exact distinct.1 (same ▸ List.mem_map_of_mem other)

/-- What tasks of other sources avoid is as before when a task starts. -/
theorem spares_before {name : String} (among : s ∈ starts options (Task.group records) w)
    (distinct : s.2.ids.Distinct)
    (avoids : ∀ t ∈ Task.group records, t.source ≠ s.1.source → t.Avoids name w.ids s.2.ids) :
    FileStore.Spares (FileStore.Named name) w.files s.2.files := by
  obtain ⟨before, later, start, _, apart⟩ := starts_apart among
  rw [start] at distinct avoids ⊢
  refine Task.spares_attemptAll_named options before w distinct fun t first => ?_
  obtain ⟨present, other⟩ := apart t (List.mem_append_left _ first)
  exact avoids t present other

/-- What tasks of other sources avoid, and no table is, stays after a task until the run ends. -/
theorem spares_after {name : String} (among : s ∈ starts options (Task.group records) w)
    (read : BugRecord.readAll w.files options.input = .ok records)
    (done : (training options).exec w = (.ok summary, after)) (distinct : after.ids.Distinct)
    (notNodes : name ≠ "nodes.csv") (notEdges : name ≠ "edges.csv")
    (avoids : ∀ t ∈ Task.group records, t.source ≠ s.1.source →
      t.Avoids name ((Task.attempt options s.1).run s.2).2.ids after.ids) :
    FileStore.Spares (FileStore.Named name) ((Task.attempt options s.1).run s.2).2.files after.files := by
  obtain ⟨before, later, _, final, apart⟩ := starts_apart among
  obtain ⟨results, ids⟩ := writeResults_of_training read done
  have tables := spares_writeResults options ((Task.attemptAll options (Task.group records)).run w).1
    notNodes notEdges ((Task.attemptAll options (Task.group records)).run w).2
  rw [results] at tables
  refine FileStore.Spares.trans ?_ tables
  rw [ids] at distinct avoids
  rw [final] at distinct avoids ⊢
  refine Task.spares_attemptAll_named options later _ distinct fun t last => ?_
  obtain ⟨present, other⟩ := apart t (List.mem_append_right _ last)
  exact avoids t present other

/-- A task of another source gives no file the name of the copy of a source. -/
theorem avoids_className (collisionFree : CollisionFree (Task.group records))
    (task : s.1 ∈ Task.group records) (plain : s.1.source.IsPlain) {t : Task}
    (present : t ∈ Task.group records) (other : t.source ≠ s.1.source) (start : Ids) {last : Ids}
    (distinct : last.Distinct) : t.Avoids s.1.source.className start last where
  notClass plainToo same := by
    have keys := SourceVersion.key_eq_of_className_eq same
    have bytes := collisionFree s.1 task t present keys
    exact other (SourceVersion.eq_of_keyBytes_eq plain plainToo bytes).symm
  notMethod id _ drawn :=
    s.1.source.className_ne_methodName (Nat.lt_of_lt_of_le drawn distinct.nodes)

/-- A task that starts later gives no file the name of a number drawn before. -/
theorem avoids_methodName {id : Nat} {start last : Ids} (drawn : id < start.nodes)
    (small : id < idLimit) (t : Task) : t.Avoids (Task.methodName id) start last where
  notClass _ := (t.source.className_ne_methodName small).symm
  notMethod other low _ same := by
    have here := Task.methodName_inj same
    omega

/-- What is in the files of a row at the end of a run. The copy is there if nothing was at its place before
the run, and the run has made no directory there. -/
structure RowFiles (options : RunContext) (task : Task) (ids : Ids) (content : Bytes)
    (before after : FileStore) (r : NodeRow) : Prop extends
    Task.RowFile options task ids content after r where
  copy : before.at? (FileStore.place (options.output.join r.classSourceFile)) = none →
    after.at? (FileStore.place (options.output.join r.classSourceFile)) ≠ some .directory →
    after.read (options.output.join r.classSourceFile) = .ok content

/-- The text of a declaration stays in its file, since later tasks draw later numbers. -/
theorem method_stays (among : s ∈ starts options (Task.group records) w)
    (read : BugRecord.readAll w.files options.input = .ok records)
    (done : (training options).exec w = (.ok summary, after)) (distinct : after.ids.Distinct) {n : Node}
    (drawn : n.id < ((Task.attempt options s.1).run s.2).2.ids.nodes) (small : n.id < idLimit)
    {text : Bytes} (written : ((Task.attempt options s.1).run s.2).2.files.read
      (options.output.join (Task.methodFile n)) = .ok text) :
    after.files.read (options.output.join (Task.methodFile n)) = .ok text := by
  have stays := spares_after among read done distinct (java_ne_table _).1 (java_ne_table _).2
    fun t _ _ => avoids_methodName drawn small t
  exact stays.read (Task.getLast?_place_methodFile n options.output) written

/-- Directories that are there when a task starts are there when the run ends. -/
theorem directories_stay {name : String}
    (later : FileStore.Spares (FileStore.Named name) ((Task.attempt options s.1).run s.2).2.files
      after.files) {result : Rows} (given : Task.rows? options s.1 s.2 = some result) (l : Location)
    (there : s.2.files.at? l = some .directory) : after.files.at? l = some .directory := by
  have own := Task.keeps_directories options s.1 s.2
  rw [Task.work_of_rows? given] at own
  exact later.directories l (FileStore.Spares.directories own l there)

/-- Nothing is at the place of the copy when a task starts, if nothing was there before the run and no
directory has been made there. -/
theorem copy_free (collisionFree : CollisionFree (Task.group records))
    (among : s ∈ starts options (Task.group records) w) (plain : s.1.source.IsPlain)
    (distinct : s.2.ids.Distinct)
    (free : w.files.at? (FileStore.place (options.output.join s.1.source.classFile)) = none)
    (noDirectory : s.2.files.at? (FileStore.place (options.output.join s.1.source.classFile)) ≠
      some .directory) :
    s.2.files.at? (FileStore.place (options.output.join s.1.source.classFile)) = none := by
  have before := spares_before among distinct fun t present other =>
    avoids_className collisionFree (mem_of_mem_starts among) plain present other w.ids distinct
  have named := s.1.source.getLast?_place_classFile options.output
  rcases there : s.2.files.at? (FileStore.place (options.output.join s.1.source.classFile)) with
    _ | old | _
  · rfl
  · have wasThere := (before.files _ named old).mp there
    simp [free] at wasThere
  · exact absurd there noDirectory

/-- What a task that is done has left in its files is there when the run ends. -/
theorem rowFiles_of_start (ranged : options.reader.KeepsRanges)
    (among : s ∈ starts options (Task.group records) w)
    (read : BugRecord.readAll w.files options.input = .ok records)
    (done : (training options).exec w = (.ok summary, after)) (distinct : after.ids.Distinct)
    (collisionFree : CollisionFree (Task.group records))
    (kept : SourcesKept options (Task.group records) w after) {result : Rows}
    (given : Task.rows? options s.1 s.2 = some result) :
    s.1.source.IsPlain ∧ ∃ content, after.files.read (s.1.sourcePath options) = .ok content ∧
      ∀ r ∈ result.nodes, RowFiles options s.1 s.2.ids content w.files after.files r := by
  have task := mem_of_mem_starts among
  have worked := Task.work_of_rows? given
  have drawn : ((Task.attempt options s.1).run s.2).2.ids ≤ after.ids := by
    rw [(writeResults_of_training read done).2]
    exact ids_attempt_le among
  have few := distinct.of_le drawn
  have fewBefore := few.of_le (Task.attempt_draws options s.1 s.2)
  obtain ⟨plain, content, isContent, copy, rowFiles⟩ := Task.work_materialises ranged worked few
  have later := spares_after among read done distinct (java_ne_table _).1 (java_ne_table _).2
    fun t present other => avoids_className collisionFree task plain present other _ distinct
  have directories := directories_stay later given
  refine ⟨plain, content, FileStore.read_of_fileAt? directories (kept s among) isContent, fun r row => ?_⟩
  obtain ⟨classFile, d, isRow, signature, text⟩ := rowFiles r row
  refine ⟨⟨classFile, d, isRow, signature, ?_⟩, ?_⟩
  · have number : r.id < ((Task.attempt options s.1).run s.2).2.ids.nodes :=
      (Task.work_ok worked few).ascending.high r.id
        (List.mem_map_of_mem (List.mem_map_of_mem row))
    obtain ⟨_, _, _, _, n, _, _, rfl⟩ := isRow
    exact method_stays among read done distinct number (Nat.lt_of_lt_of_le number few.nodes) text
  · rw [classFile]
    intro free noDirectory
    refine later.read (s.1.source.getLast?_place_classFile options.output) (copy ?_)
    exact copy_free collisionFree among plain fewBefore free fun there =>
      noDirectory (directories _ there)

end

/-- The rows of a run name different files for their declarations. -/
theorem nodup_methodSourceFiles (options : RunContext) (tasks : List Task) (w : Workspace)
    (distinct : ((Task.attemptAll options tasks).run w).2.ids.Distinct) :
    ((nodeRows options tasks w).map NodeRow.methodSourceFile).Nodup := by
  have numbers := (Task.attemptAll_tabled options tasks w distinct).ascending.nodup
  rw [← nodeRows_eq, List.map_map] at numbers
  have named : ∀ r ∈ nodeRows options tasks w,
      (FileStore.place (options.output.join r.methodSourceFile)).getLast? =
        some (Task.methodName r.id) := by
    intro r row
    obtain ⟨s, among, given⟩ := List.mem_flatMap.mp row
    obtain ⟨result, isResult, row⟩ := List.mem_flatMap.mp given
    rw [Task.methodSourceFile_eq (Option.mem_toList.mp isResult) row]
    exact Task.getLast?_place_methodPath options.output r.project r.id
  refine List.pairwise_map.mpr ((List.pairwise_map.mp numbers).imp_of_mem ?_)
  intro r r' row row' other same
  apply other
  have names := named r row
  rw [same, named r' row', Option.some.injEq] at names
  exact (Task.methodName_inj names).symm

/-- The files of a run are those that its rows name. -/
structure Materialised (options : RunContext) (tasks : List Task) (w : Workspace) (files : FileStore) :
    Prop where
  table : files.read (nodesFile options.output) =
    .ok (Text.Utf8.encode (nodeTable (nodeRows options tasks w)).text)
  rows : ∀ s ∈ starts options tasks w, ∀ result, Task.rows? options s.1 s.2 = some result →
    ∃ content, files.read (s.1.sourcePath options) = .ok content ∧
      ∀ r ∈ result.nodes, RowFiles options s.1 s.2.ids content w.files files r
  methodsOnce : ((nodeRows options tasks w).map NodeRow.methodSourceFile).Nodup
  /-- Rows name the same copy when their tasks are about the same source, and only then. -/
  copies : ∀ s ∈ starts options tasks w, ∀ s' ∈ starts options tasks w, ∀ result result',
    Task.rows? options s.1 s.2 = some result → Task.rows? options s'.1 s'.2 = some result' →
    ∀ r ∈ result.nodes, ∀ r' ∈ result'.nodes,
      (r.classSourceFile = r'.classSourceFile ↔ s.1.source = s'.1.source)

/-- When a run ends, the files that its rows name hold the texts of their declarations and the sources of
their tasks, whatever the other tasks have written, those that fail included. -/
theorem files_match_rows (options : RunContext) (records : List BugRecord) (w after : Workspace)
    (summary : Summary) (ranged : options.reader.KeepsRanges)
    (read : BugRecord.readAll w.files options.input = .ok records)
    (done : (training options).exec w = (.ok summary, after)) (distinct : after.ids.Distinct)
    (collisionFree : CollisionFree (Task.group records))
    (kept : SourcesKept options (Task.group records) w after) :
    Materialised options (Task.group records) w after.files := by
  obtain ⟨_, readAgain, nodesWritten, _, _, ids⟩ := training_written done
  rw [read] at readAgain
  cases readAgain
  have files := fun (s : Task × Workspace) (among : s ∈ starts options (Task.group records) w)
      (result : Rows) (given : Task.rows? options s.1 s.2 = some result) =>
    rowFiles_of_start ranged among read done distinct collisionFree kept given
  refine ⟨?_, fun s among result given => (files s among result given).2, ?_, ?_⟩
  · rw [nodesWritten, nodeRows_eq]
  · rw [ids] at distinct
    exact nodup_methodSourceFiles options _ w distinct
  · intro s among s' among' result result' given given' r row r' row'
    obtain ⟨plain, _, _, rowFiles⟩ := files s among result given
    obtain ⟨plain', _, _, rowFiles'⟩ := files s' among' result' given'
    rw [(rowFiles r row).classFile, (rowFiles' r' row').classFile]
    refine ⟨fun same => ?_, fun same => by rw [same]⟩
    have places := congrArg (fun file => (FileStore.place (options.output.join file)).getLast?) same
    simp only [SourceVersion.getLast?_place_classFile, Option.some.injEq] at places
    exact SourceVersion.eq_of_keyBytes_eq plain plain' (collisionFree s.1 (mem_of_mem_starts among) s'.1
      (mem_of_mem_starts among') (SourceVersion.key_eq_of_className_eq places))

/-- The first task fails after its source has been copied, and the second gives a row. -/
theorem files_match_rows_of_overflow :
    ∃ summary after,
      (training (sampleOptions "in")).exec (soleSource overflowRecords) = (.ok summary, after) ∧
      after.ids = ⟨3, 1⟩ ∧
      (starts (sampleOptions "in") [overflowTask, soundTask] (soleSource overflowRecords)).map
        (fun s => (Task.rows? (sampleOptions "in") s.1 s.2).map fun rows => rows.nodes.length) =
        [none, some 1] ∧
      Materialised (sampleOptions "in") [overflowTask, soundTask] (soleSource overflowRecords)
        after.files := by
  have read := readAll_overflowRecords
  obtain ⟨isDone, ids, collisionFree, kept, counts⟩ :
      ((training (sampleOptions "in")).exec (soleSource overflowRecords)).1.toOption.isSome = true ∧
      ((training (sampleOptions "in")).exec (soleSource overflowRecords)).2.ids = ⟨3, 1⟩ ∧
      CollisionFree (Task.group overflowRecords) ∧
      SourcesKept (sampleOptions "in") (Task.group overflowRecords) (soleSource overflowRecords)
        ((training (sampleOptions "in")).exec (soleSource overflowRecords)).2 ∧
      (starts (sampleOptions "in") [overflowTask, soundTask] (soleSource overflowRecords)).map
        (fun s => (Task.rows? (sampleOptions "in") s.1 s.2).map fun rows => rows.nodes.length) =
        [none, some 1] := by
    rw [exec_training read, group_overflowRecords]
    decide +kernel
  obtain ⟨summary, done⟩ := Job.exec_ok_of_toOption isDone
  have few : ((training (sampleOptions "in")).exec (soleSource overflowRecords)).2.ids.Distinct := by
    rw [ids]
    exact ⟨by decide, by decide⟩
  have files := files_match_rows (sampleOptions "in") overflowRecords (soleSource overflowRecords) _
    summary Reader.grammar_keepsRanges read done few collisionFree kept
  rw [group_overflowRecords] at files
  exact ⟨summary, _, done, ids, counts, files⟩

/-- A task whose project lies outside the output directory. -/
def outsideTask : Task := ⟨⟨"../x", "h", "A"⟩, [⟨"../x", "A", "h", "A.f()V", "A", 1⟩]⟩

/-- An empty output directory, and a file where the copy of the source of that task belongs. -/
def outsideCopy : Workspace := ⟨⟨[
  (["in"], .file (Text.Utf8.encode (BugRecord.table outsideTask.records).text)),
  (["A"], .file (Text.Utf8.encode "class A{void f(){f();}}")),
  (["out"], .directory), (["x"], .directory), (["x", "classes"], .directory),
  (["x", "classes", "4fe3c900abbce69f49f022c22cdaa80f.java"], .file (Text.Utf8.encode "old"))]⟩, .zero, []⟩

/-- A file that was there before the run stays where the copy of a source belongs: the run is done, no
source is changed and no keys collide, yet the copy that the row names is not the source. -/
theorem old_copy_stays :
    BugRecord.readAll outsideCopy.files (sampleOptions "in").input = .ok outsideTask.records ∧
    ((training (sampleOptions "in")).exec outsideCopy).1.toOption = some ⟨1, 0, 1, 1⟩ ∧
    ((training (sampleOptions "in")).exec outsideCopy).2.ids = ⟨1, 1⟩ ∧
    CollisionFree (Task.group outsideTask.records) ∧
    SourcesKept (sampleOptions "in") (Task.group outsideTask.records) outsideCopy
      ((training (sampleOptions "in")).exec outsideCopy).2 ∧
    (nodeRows (sampleOptions "in") (Task.group outsideTask.records) outsideCopy).map
      NodeRow.classSourceFile = [outsideTask.source.classFile] ∧
    ((training (sampleOptions "in")).exec outsideCopy).2.files.read
      (outsideTask.sourcePath (sampleOptions "in")) =
      .ok (Text.Utf8.encode "class A{void f(){f();}}") ∧
    ((training (sampleOptions "in")).exec outsideCopy).2.files.read
      (Path.join "out" outsideTask.source.classFile) = .ok (Text.Utf8.encode "old") := by
  have read : BugRecord.readAll outsideCopy.files (sampleOptions "in").input =
      .ok outsideTask.records := by decide +kernel
  have grouped : Task.group outsideTask.records = [outsideTask] := by decide +kernel
  refine ⟨read, ?_⟩
  rw [exec_training read, grouped]
  decide +kernel

end Run

end DefectGraph
