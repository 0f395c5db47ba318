import DefectGraph.Proofs.FileStore
import DefectGraph.Proofs.Job

/-!
# The tables of a run belong together

## Main Definitions

* `RowKey` - the number and the group of a row of nodes.
* `Consistent` - a table of nodes and a table of edges that belong together.
* `Tabled` - such tables, with the numbers that were drawn for them.
* `Run.outputs` - the rows that tasks give, with the tasks.

## Main Statements

* `tabled_of_expanded` - the rows of one neighborhood belong together.
* `Tabled.append` - rows of what is drawn first and of what is drawn later belong together.
* `Run.tables_consistent` - the tables that a run writes belong together.

## Design Notes

Rows for training and rows for prediction have a number and a group in common, and only those two are
compared with edges; `RowKey` is that part of a row. `Tabled` adds the counts before and after, so that the
rows of several tasks can be appended: numbers of different tasks are drawn from different stretches, and a
stretch begins where the one before ends. The way to make trees of source texts is a parameter of the run,
and nothing is assumed about it.
-/

namespace DefectGraph

open DefectGraph.Graph DefectGraph.Source

/-! ### Tables that belong together -/

/-- The number and the group of a row of nodes. -/
structure RowKey where
  id : Nat
  graphId : Option Nat
  deriving DecidableEq, Repr

/-- The number and the group of a row. -/
def NodeRow.key (r : NodeRow) : RowKey := ⟨r.id, r.graphId⟩

/-- The number and the group of a row of a prediction. -/
def PredictionRow.key (r : PredictionRow) : RowKey := ⟨r.id, r.graphId⟩

/-- The number and the group of a node. -/
def Graph.Node.key (n : Node) : RowKey := ⟨n.id, n.graphId⟩

/-- The ends of a row of edges. -/
def EdgeRow.ends (e : EdgeRow) : Nat × Nat := (e.source, e.destination)

/-- A table of nodes and a table of edges belong together: the numbers of nodes rise, every node has a
group, and each end of an edge is the number of exactly one node, which has the group of the edge. -/
structure Consistent (rows : List RowKey) (edges : List EdgeRow) : Prop where
  ascending : (rows.map RowKey.id).Pairwise (· < ·)
  grouped : ∀ r ∈ rows, r.graphId.isSome = true
  edgesOnce : (edges.map EdgeRow.ends).Nodup
  source : ∀ e ∈ edges, rows.filter (fun r => r.id == e.source) = [⟨e.source, e.graphId⟩]
  destination : ∀ e ∈ edges,
    rows.filter (fun r => r.id == e.destination) = [⟨e.destination, e.graphId⟩]

/-- Rows with the numbers drawn between two counts. -/
structure Tabled (keepIsolated : Bool) (start after : Ids) (rows : List RowKey)
    (edges : List EdgeRow) : Prop where
  ascending : Ascending start.nodes after.nodes (rows.map RowKey.id)
  groups : ∀ r ∈ rows, ∃ group, r.graphId = some group ∧ start.groups ≤ group ∧ group < after.groups
  edgesOnce : (edges.map EdgeRow.ends).Nodup
  source : ∀ e ∈ edges, ⟨e.source, e.graphId⟩ ∈ rows
  destination : ∀ e ∈ edges, ⟨e.destination, e.graphId⟩ ∈ rows
  isolated : keepIsolated = false → ∀ r ∈ rows, ∃ e ∈ edges, e.source = r.id ∨ e.destination = r.id

/-- Where numbers rise, only one row has a number. -/
theorem filter_id_eq {rows : List RowKey} (rising : (rows.map RowKey.id).Pairwise (· < ·))
    {key : RowKey} (present : key ∈ rows) : rows.filter (fun r => r.id == key.id) = [key] := by
  induction rows with
  | nil => cases present
  | cons first rest ih =>
    rw [List.map_cons, List.pairwise_cons] at rising
    have later : ∀ r ∈ rest, first.id < r.id := fun r among =>
      rising.1 r.id (List.mem_map_of_mem among)
    rcases List.mem_cons.mp present with rfl | among
    · have others : rest.filter (fun r => r.id == key.id) = [] := by
        rw [List.filter_eq_nil_iff]
        intro r among
        simpa using (later r among).ne'
      simp [others]
    · simpa [(later key among).ne] using ih rising.2 among

namespace Tabled

variable {keepIsolated : Bool} {start between after : Ids} {rows others : List RowKey}
  {edges more : List EdgeRow}

/-- Tabled rows are consistent. -/
theorem consistent (tabled : Tabled keepIsolated start after rows edges) : Consistent rows edges where
  ascending := tabled.ascending.rising
  grouped := by
    intro r present
    obtain ⟨group, number, _⟩ := tabled.groups r present
    simp [number]
  edgesOnce := tabled.edgesOnce
  source := fun e present => filter_id_eq tabled.ascending.rising (tabled.source e present)
  destination := fun e present => filter_id_eq tabled.ascending.rising (tabled.destination e present)

theorem nil (keepIsolated : Bool) (start after : Ids) : Tabled keepIsolated start after [] [] :=
  ⟨.nil _ _, by simp, by simp, by simp, by simp, by simp⟩

/-- The source of an edge has a number drawn between the two counts. -/
theorem source_bounds (tabled : Tabled keepIsolated start after rows edges) {e : EdgeRow}
    (present : e ∈ edges) : start.nodes ≤ e.source ∧ e.source < after.nodes :=
  have among : e.source ∈ rows.map RowKey.id := List.mem_map_of_mem (tabled.source e present)
  ⟨tabled.ascending.low _ among, tabled.ascending.high _ among⟩

/-- Rows of what is drawn first and of what is drawn later belong together. -/
theorem append (one : Tabled keepIsolated start between rows edges)
    (two : Tabled keepIsolated between after others more) (first : start ≤ between)
    (second : between ≤ after) :
    Tabled keepIsolated start after (rows ++ others) (edges ++ more) where
  ascending := by
    rw [List.map_append]
    exact one.ascending.append two.ascending first.1 second.1
  groups := by
    intro r present
    rcases List.mem_append.mp present with before | later
    · obtain ⟨group, number, low, high⟩ := one.groups r before
      exact ⟨group, number, low, high.trans_le second.2⟩
    · obtain ⟨group, number, low, high⟩ := two.groups r later
      exact ⟨group, number, first.2.trans low, high⟩
  edgesOnce := by
    rw [List.map_append]
    refine List.nodup_append.mpr ⟨one.edgesOnce, two.edgesOnce, ?_⟩
    -- The sources of the first edges were drawn before those of the others.
    intro x before y later same
    obtain ⟨e, early, rfl⟩ := List.mem_map.mp before
    obtain ⟨e', late, rfl⟩ := List.mem_map.mp later
    have below := (one.source_bounds early).2
    have above := (two.source_bounds late).1
    have source : e.source = e'.source := congrArg Prod.fst same
    omega
  source := by
    intro e present
    rcases List.mem_append.mp present with before | later
    · exact List.mem_append_left _ (one.source e before)
    · exact List.mem_append_right _ (two.source e later)
  destination := by
    intro e present
    rcases List.mem_append.mp present with before | later
    · exact List.mem_append_left _ (one.destination e before)
    · exact List.mem_append_right _ (two.destination e later)
  isolated := by
    intro dropped r present
    rcases List.mem_append.mp present with before | later
    · obtain ⟨e, among, touches⟩ := one.isolated dropped r before
      exact ⟨e, List.mem_append_left _ among, touches⟩
    · obtain ⟨e, among, touches⟩ := two.isolated dropped r later
      exact ⟨e, List.mem_append_right _ among, touches⟩

end Tabled

/-! ### Rows of a neighborhood -/

/-- The ends of an edge have nodes, so the edge has a row. -/
theorem edgeRow?_eq {h : Neighborhood} (wellFormed : h.WellFormed) {e : Edge} (present : e ∈ h.edges) :
    ∃ a ∈ h.nodes, ∃ b ∈ h.nodes, a.decl = e.source ∧ b.decl = e.destination ∧
      Run.edgeRow? h e = some ⟨a.id, b.id, e.graphId⟩ := by
  have ends : e.ends ∈ h.ends := List.mem_map_of_mem present
  obtain ⟨a, aPresent, aDecl, aFound⟩ :=
    Neighborhood.node?_of_mem_keys (wellFormed.sourceKeys _ ends)
  obtain ⟨b, bPresent, bDecl, bFound⟩ :=
    Neighborhood.node?_of_mem_keys (wellFormed.destinationKeys _ ends)
  refine ⟨a, aPresent, b, bPresent, aDecl, bDecl, ?_⟩
  change h.node? e.source = some a at aFound
  change h.node? e.destination = some b at bFound
  simp [Run.edgeRow?, aFound, bFound]

/-- A row of edges is that of an edge between two nodes with their numbers. -/
theorem mem_edgeRows {h : Neighborhood} (wellFormed : h.WellFormed) {r : EdgeRow}
    (present : r ∈ Run.edgeRows h) :
    ∃ e ∈ h.edges, ∃ a ∈ h.nodes, ∃ b ∈ h.nodes, a.decl = e.source ∧ b.decl = e.destination ∧
      r = ⟨a.id, b.id, e.graphId⟩ := by
  obtain ⟨e, among, row⟩ := List.mem_filterMap.mp present
  obtain ⟨a, aPresent, b, bPresent, aDecl, bDecl, eRow⟩ := edgeRow?_eq wellFormed among
  rw [eRow] at row
  exact ⟨e, among, a, aPresent, b, bPresent, aDecl, bDecl, (Option.some.inj row).symm⟩

/-- Where nodes have different numbers, edges have different rows. -/
theorem edgeRows_nodup {h : Neighborhood} (wellFormed : h.WellFormed)
    (numbers : (h.nodes.map Node.id).Nodup) : ((Run.edgeRows h).map EdgeRow.ends).Nodup := by
  have different := List.pairwise_map.mp wellFormed.endsNodup
  refine List.pairwise_map.mpr (List.pairwise_filterMap.mpr ?_)
  refine different.imp_of_mem fun {e e'} present present' ends r row r' row' same => ends ?_
  obtain ⟨a, aPresent, b, bPresent, aDecl, bDecl, eRow⟩ := edgeRow?_eq wellFormed present
  obtain ⟨a', aPresent', b', bPresent', aDecl', bDecl', eRow'⟩ := edgeRow?_eq wellFormed present'
  rw [eRow] at row
  rw [eRow'] at row'
  cases row
  cases row'
  obtain ⟨source, destination⟩ := Prod.mk.inj same
  have sameSource : a = a' := List.inj_on_of_nodup_map numbers aPresent aPresent' source
  have sameDestination : b = b' := List.inj_on_of_nodup_map numbers bPresent bPresent' destination
  rw [Edge.ends, Edge.ends, ← aDecl, ← bDecl, ← aDecl', ← bDecl', sameSource, sameDestination]

/-- A node that an edge touches is shown in the group of the edge. -/
theorem mem_shown_of_touches {keepIsolated : Bool} {low : Nat} {start after : Ids}
    {hood : Neighborhood} (expanded : Expanded keepIsolated low start after hood) {n : Node} {e : Edge}
    (present : n ∈ hood.nodes) (among : e ∈ hood.edges) (touches : e.Touches n.decl) :
    ⟨n.id, e.graphId⟩ ∈ (Run.shown hood).map Node.key := by
  have group := expanded.touched n present e among touches
  refine List.mem_map.mpr ⟨n, List.mem_filter.mpr ⟨present, ?_⟩, by rw [Node.key, group]⟩
  rw [group]
  exact expanded.edgeNumber e among

/-- The rows of one neighborhood belong together. -/
theorem tabled_of_expanded {keepIsolated : Bool} {start middle after : Ids} {hood : Neighborhood}
    (expanded : Expanded keepIsolated start.nodes middle after hood)
    (distinct : after.Distinct) (drawn : start.groups ≤ middle.groups) :
    Tabled keepIsolated start after ((Run.shown hood).map Node.key) (Run.edgeRows hood) := by
  have ascending := expanded.ascending distinct.nodes
  refine ⟨?_, ?_, edgeRows_nodup expanded.wellFormed ascending.nodup, ?_, ?_, ?_⟩
  · have part : (Run.shown hood).Sublist hood.nodes := List.filter_sublist
    rw [List.map_map]
    exact ascending.sublist (part.map Node.id)
  · intro r present
    obtain ⟨n, shown, rfl⟩ := List.mem_map.mp present
    obtain ⟨among, grouped⟩ := List.mem_filter.mp shown
    obtain ⟨group, number⟩ := Option.isSome_iff_exists.mp grouped
    obtain ⟨low, high⟩ := expanded.groups distinct.groups n among group number
    exact ⟨group, number, drawn.trans low, high⟩
  · intro r present
    obtain ⟨e, among, a, aPresent, _, _, aDecl, _, rfl⟩ := mem_edgeRows expanded.wellFormed present
    exact mem_shown_of_touches expanded aPresent among (Or.inl aDecl.symm)
  · intro r present
    obtain ⟨e, among, _, _, b, bPresent, _, bDecl, rfl⟩ := mem_edgeRows expanded.wellFormed present
    exact mem_shown_of_touches expanded bPresent among (Or.inr bDecl.symm)
  · intro dropped r present
    obtain ⟨n, shown, rfl⟩ := List.mem_map.mp present
    obtain ⟨known, grouped⟩ := List.mem_filter.mp shown
    obtain ⟨e, among, touches⟩ := expanded.isolated dropped n known grouped
    obtain ⟨a, aPresent, b, bPresent, aDecl, bDecl, row⟩ := edgeRow?_eq expanded.wellFormed among
    refine ⟨_, List.mem_filterMap.mpr ⟨e, among, row⟩, ?_⟩
    -- A declaration has one node, so the node is one of the two at the ends.
    rcases touches with source | destination
    · have same : a = n := List.inj_on_of_nodup_map expanded.wellFormed.keysNodup aPresent known
        (aDecl.trans source)
      exact Or.inl (congrArg Node.id same)
    · have same : b = n := List.inj_on_of_nodup_map expanded.wellFormed.keysNodup bPresent known
        (bDecl.trans destination)
      exact Or.inr (congrArg Node.id same)

/-! ### Rows of tasks -/

/-- The rows around seeds belong together. -/
theorem Run.tabled_of_expand {template : Template} {tree : Tree} {marker : String}
    {keepIsolated : Bool} {seeds : List Node} {start : Ids} {w after : Workspace} {hood : Neighborhood}
    (drawn : SeedsDrawn start w.ids seeds)
    (done : (expand template tree marker keepIsolated seeds).exec w = (.ok hood, after))
    (distinct : after.ids.Distinct) :
    Tabled keepIsolated start after.ids ((shown hood).map Node.key) (edgeRows hood) := by
  rw [exec_expand] at done
  rcases answer : extract? template tree seeds w.ids with _ | ⟨extracted, events, ids⟩
  · simp [answer] at done
  · simp only [answer] at done
    cases done
    have groups : ids.groups = start.groups := (extract?_counts answer).2.trans drawn.groups
    have extracted := (extracted_of_extract? drawn answer).filter marker
    exact tabled_of_expanded (extracted.partition keepIsolated) distinct (Nat.le_of_eq groups.symm)

namespace Task

/-- The rows of a task that does not fail belong together. -/
theorem work_ok {options : RunContext} {task : Task} {w after : Workspace} {rows : Rows}
    (done : (work options task).exec w = (.ok rows, after)) (distinct : after.ids.Distinct) :
    Tabled options.config.keepIsolated w.ids after.ids (rows.nodes.map NodeRow.key) rows.edges := by
  obtain ⟨tree, parsed, readTree, done⟩ := Job.exec_bind_ok.mp done
  obtain ⟨_, copied, copy, done⟩ := Job.exec_bind_ok.mp done
  obtain ⟨seeds, seeded, seeding, done⟩ := Job.exec_bind_ok.mp done
  have startIds : copied.ids = w.ids :=
    ((Job.keeps_copyOnce _ _ _).ids_eq copy).trans ((Run.keeps_readTree _ _).ids_eq readTree)
  have drawn := seeds_ok seeding
  rw [startIds] at drawn
  split at done
  · cases done
    exact .nil _ _ _
  · obtain ⟨hood, expanded, expand, done⟩ := Job.exec_bind_ok.mp done
    obtain ⟨_, written, write, done⟩ := Job.exec_bind_ok.mp done
    cases done
    have endIds : after.ids = expanded.ids := (Run.keeps_writeMethods _ _ _ _).ids_eq write
    rw [endIds] at distinct ⊢
    have tabled := Run.tabled_of_expand drawn expand distinct
    rw [List.map_map]
    exact tabled

/-- An attempt at a task gives its rows, or none when it fails. -/
theorem run_attempt (options : RunContext) (task : Task) (w : Workspace) :
    (attempt options task).run w =
      match (work options task).exec w with
      | (.ok rows, after) => (some rows, after)
      | (.error failure, after) =>
        (none, { after with notices := after.notices ++ [.failedTask task.source.label failure] }) := by
  rw [attempt, StateT.run_bind]
  rcases outcome : (work options task).exec w with ⟨failure | rows, after⟩
  · unfold Job.exec at outcome
    rw [outcome]
    rfl
  · unfold Job.exec at outcome
    rw [outcome]
    rfl

/-- Attempts are made one after the other, each where the one before ended. -/
theorem run_attemptAll_cons (options : RunContext) (task : Task) (rest : List Task) (w : Workspace) :
    (attemptAll options (task :: rest)).run w =
      let first := (attempt options task).run w
      let others := (attemptAll options rest).run first.2
      (first.1 :: others.1, others.2) := by
  rw [attemptAll, StateT.run_bind]
  rfl

/-- A failure is only reported, so the files after an attempt are those after the work. -/
@[simp]
theorem files_attempt (options : RunContext) (task : Task) (w : Workspace) :
    ((attempt options task).run w).2.files = ((work options task).exec w).2.files := by
  rw [run_attempt]
  rcases (work options task).exec w with ⟨failure | rows, after⟩
  · rfl
  · rfl

/-- So are the numbers that have been drawn. -/
@[simp]
theorem ids_attempt (options : RunContext) (task : Task) (w : Workspace) :
    ((attempt options task).run w).2.ids = ((work options task).exec w).2.ids := by
  rw [run_attempt]
  rcases (work options task).exec w with ⟨failure | rows, after⟩
  · rfl
  · rfl

/-- A task only draws numbers, whether it fails or not. -/
theorem attempt_draws (options : RunContext) (task : Task) (w : Workspace) :
    w.ids ≤ ((attempt options task).run w).2.ids := by
  rw [ids_attempt]
  exact keeps_work options task w

/-- The rows of an attempt belong together, if there are any. -/
theorem attempt_tabled (options : RunContext) (task : Task) (w : Workspace)
    (distinct : ((attempt options task).run w).2.ids.Distinct) :
    Tabled options.config.keepIsolated w.ids ((attempt options task).run w).2.ids
      ((((attempt options task).run w).1.toList.flatMap Rows.nodes).map NodeRow.key)
      (((attempt options task).run w).1.toList.flatMap Rows.edges) := by
  rw [run_attempt] at distinct ⊢
  rcases outcome : (work options task).exec w with ⟨failure | rows, after⟩
  · exact .nil _ _ _
  · rw [outcome] at distinct
    simpa using work_ok outcome distinct

/-- So do all tasks of a run. -/
theorem attemptAll_draws (options : RunContext) (tasks : List Task) (w : Workspace) :
    w.ids ≤ ((attemptAll options tasks).run w).2.ids := by
  induction tasks generalizing w with
  | nil => exact w.ids.le_refl
  | cons task rest ih =>
    rw [run_attemptAll_cons]
    exact Ids.le_trans (attempt_draws options task w) (ih _)

/-- The rows of all tasks belong together. -/
theorem attemptAll_tabled (options : RunContext) (tasks : List Task) (w : Workspace)
    (distinct : ((attemptAll options tasks).run w).2.ids.Distinct) :
    Tabled options.config.keepIsolated w.ids ((attemptAll options tasks).run w).2.ids
      (((((attemptAll options tasks).run w).1.filterMap id).flatMap Rows.nodes).map NodeRow.key)
      ((((attemptAll options tasks).run w).1.filterMap id).flatMap Rows.edges) := by
  induction tasks generalizing w with
  | nil => exact .nil _ _ _
  | cons task rest ih =>
    rw [run_attemptAll_cons] at distinct ⊢
    have first := attempt_draws options task w
    have second := attemptAll_draws options rest ((attempt options task).run w).2
    have split : ∀ (one : Option Rows) (more : List (Option Rows)),
        (one :: more).filterMap id = one.toList ++ more.filterMap id := by
      rintro (_ | _) more <;> rfl
    simp only [split, List.flatMap_append, List.map_append]
    exact (attempt_tabled options task w (distinct.of_le second)).append (ih _ distinct) first second

end Task

/-! ### Rows of runs -/

namespace Run

/-- The rows that tasks give when they are worked on one after the other, with the tasks; tasks that
fail give none. -/
def outputs (options : RunContext) (tasks : List Task) (w : Workspace) : List (Task × Rows) :=
  (tasks.zip ((Task.attemptAll options tasks).run w).1).filterMap fun (task, rows) =>
    rows.map (task, ·)

/-- The rows of a run are those of its first task, if it is done, and then the others. -/
theorem outputs_cons (options : RunContext) (task : Task) (rest : List Task) (w : Workspace) :
    outputs options (task :: rest) w =
      (((Task.attempt options task).run w).1.map (task, ·)).toList ++
        outputs options rest ((Task.attempt options task).run w).2 := by
  unfold outputs
  rw [Task.run_attemptAll_cons]
  simp only [List.zip_cons_cons, List.filterMap_cons]
  cases ((Task.attempt options task).run w).1 with
  | none => rfl
  | some rows => rfl

/-- The outputs hold the rows of all tasks that do not fail. -/
theorem map_snd_outputs (options : RunContext) (tasks : List Task) (w : Workspace) :
    (outputs options tasks w).map Prod.snd =
      ((Task.attemptAll options tasks).run w).1.filterMap id := by
  induction tasks generalizing w with
  | nil => rfl
  | cons task rest ih =>
    rw [outputs_cons, List.map_append, ih, Task.run_attemptAll_cons]
    simp only [List.filterMap_cons]
    cases ((Task.attempt options task).run w).1 with
    | none => rfl
    | some rows => rfl

/-- The rows of an output have groups drawn while its task was worked on. -/
theorem groups_of_mem_outputs {options : RunContext} {tasks : List Task} {w : Workspace}
    (distinct : ((Task.attemptAll options tasks).run w).2.ids.Distinct) {output : Task × Rows}
    (present : output ∈ outputs options tasks w) {r : NodeRow} (row : r ∈ output.2.nodes) :
    ∃ group, r.graphId = some group ∧ w.ids.groups ≤ group := by
  have among : output.2 ∈ ((Task.attemptAll options tasks).run w).1.filterMap id := by
    rw [← map_snd_outputs]
    exact List.mem_map_of_mem present
  obtain ⟨group, number, low, _⟩ := (Task.attemptAll_tabled options tasks w distinct).groups r.key
    (List.mem_map_of_mem (List.mem_flatMap.mpr ⟨output.2, among, row⟩))
  exact ⟨group, number, low⟩

/-- Rows with one group come from one task. -/
theorem outputs_separate (options : RunContext) (tasks : List Task) (w : Workspace)
    (distinct : ((Task.attemptAll options tasks).run w).2.ids.Distinct) :
    ∀ one ∈ outputs options tasks w, ∀ other ∈ outputs options tasks w,
      ∀ r ∈ one.2.nodes, ∀ r' ∈ other.2.nodes, r.graphId = r'.graphId → one.1 = other.1 := by
  induction tasks generalizing w with
  | nil =>
    intro one present
    cases present
  | cons task rest ih =>
    rw [Task.run_attemptAll_cons] at distinct
    have second := Task.attemptAll_draws options rest ((Task.attempt options task).run w).2
    have first := Task.attempt_tabled options task w (distinct.of_le second)
    have isFirst : ∀ one ∈ (((Task.attempt options task).run w).1.map (task, ·)).toList,
        one.1 = task ∧ one.2 ∈ ((Task.attempt options task).run w).1.toList := by
      cases ((Task.attempt options task).run w).1 <;> simp
    -- The groups of the first task were all drawn before those of the others.
    have apart : ∀ one ∈ (((Task.attempt options task).run w).1.map (task, ·)).toList,
        ∀ other ∈ outputs options rest ((Task.attempt options task).run w).2,
        ∀ r ∈ one.2.nodes, ∀ r' ∈ other.2.nodes, r.graphId ≠ r'.graphId := by
      intro one here other later r row r' row' same
      obtain ⟨group, number, _, high⟩ := first.groups r.key
        (List.mem_map_of_mem (List.mem_flatMap.mpr ⟨one.2, (isFirst one here).2, row⟩))
      obtain ⟨group', number', low⟩ := groups_of_mem_outputs distinct later row'
      have equal : some group = some group' := number.symm.trans (same.trans number')
      cases equal
      omega
    rw [outputs_cons]
    intro one present other present' r row r' row' same
    rcases List.mem_append.mp present with here | later
    · rcases List.mem_append.mp present' with here' | later'
      · exact (isFirst one here).1.trans (isFirst other here').1.symm
      · exact absurd same (apart one here other later' r row r' row')
    · rcases List.mem_append.mp present' with here' | later'
      · exact absurd same.symm (apart other here' one later r' row' r row)
      · exact ih _ distinct one later other later' r row r' row' same

/-! ### Files of runs -/

/-- The table of edges is written to another file than the table of nodes, so both can be read. -/
theorem tables_written {nodes edges : Csv.Table} {output : Path} {w between after : Workspace}
    {u v : Unit} (first : (Job.writeTable nodes (nodesFile output)).exec w = (.ok u, between))
    (second : (Job.writeTable edges (edgesFile output)).exec between = (.ok v, after)) :
    after.files.read (nodesFile output) = .ok (Text.Utf8.encode nodes.text) ∧
      after.files.read (edgesFile output) = .ok (Text.Utf8.encode edges.text) := by
  obtain ⟨⟨place, located, written⟩, _⟩ := Job.writeTable_ok first
  obtain ⟨⟨edgesPlace, edgesLocated, edgesWritten⟩, kept⟩ := Job.writeTable_ok second
  have nodesLast : place.getLast? = some "nodes.csv" :=
    FileStore.getLast?_locate_join (by decide) (by decide) (fun _ => by simp [FileStore.step]) located
  have elsewhere : ∀ s : FileStore, ∀ other, s.locate (edgesFile output) = .ok other →
      place ≠ other := by
    rintro s other found rfl
    have edgesLast : place.getLast? = some "edges.csv" :=
      FileStore.getLast?_locate_join (by decide) (by decide) (fun _ => by simp [FileStore.step]) found
    rw [nodesLast] at edgesLast
    exact absurd edgesLast (by decide)
  exact ⟨FileStore.read_of_kept (kept place (by simp [written]) elsewhere) located written,
    FileStore.read_of_at? edgesLocated edgesWritten⟩

/-- What a training run leaves in its files, with the rows that its tasks gave. -/
structure TrainingTables (options : RunContext) (outputs : List (Task × Rows)) (files : FileStore) :
    Prop where
  nodesWritten : files.read (nodesFile options.output) =
    .ok (Text.Utf8.encode (nodeTable (outputs.flatMap fun output => output.2.nodes)).text)
  edgesWritten : files.read (edgesFile options.output) =
    .ok (Text.Utf8.encode (edgeTable (outputs.flatMap fun output => output.2.edges)).text)
  consistent : Consistent ((outputs.flatMap fun output => output.2.nodes).map NodeRow.key)
    (outputs.flatMap fun output => output.2.edges)
  /-- Two rows of nodes with one group come from one task. -/
  separate : ∀ one ∈ outputs, ∀ other ∈ outputs, ∀ r ∈ one.2.nodes, ∀ r' ∈ other.2.nodes,
    r.graphId = r'.graphId → one.1 = other.1
  /-- Unless isolated nodes are kept, every node is an end of an edge. -/
  isolated : options.config.keepIsolated = false →
    ∀ r ∈ outputs.flatMap fun output => output.2.nodes,
      ∃ e ∈ outputs.flatMap fun output => output.2.edges, e.source = r.id ∨ e.destination = r.id

/-- A training run that is done has written the rows of the tasks that do not fail, and draws no
numbers after them. -/
theorem training_written {options : RunContext} {w after : Workspace} {summary : Summary}
    (done : (training options).exec w = (.ok summary, after)) :
    ∃ records, BugRecord.readAll w.files options.input = .ok records ∧
      let tasks := Task.group records
      let results := ((Task.attemptAll options tasks).run w).1.filterMap id
      after.files.read (nodesFile options.output) =
        .ok (Text.Utf8.encode (nodeTable (results.flatMap Rows.nodes)).text) ∧
      after.files.read (edgesFile options.output) =
        .ok (Text.Utf8.encode (edgeTable (results.flatMap Rows.edges)).text) ∧
      summary.failed = tasks.length - results.length ∧
      after.ids = ((Task.attemptAll options tasks).run w).2.ids := by
  obtain ⟨records, start, read, working⟩ := Job.exec_bind_ok.mp done
  obtain ⟨found, rfl⟩ := Job.readRecords_ok read
  refine ⟨records, found, ?_⟩
  obtain ⟨results, worked, attempts, writing⟩ := Job.exec_bind_ok.mp working
  rw [Job.exec_lift] at attempts
  cases attempts
  obtain ⟨_, between, nodesDone, writing⟩ := Job.exec_bind_ok.mp writing
  obtain ⟨_, last, edgesDone, ending⟩ := Job.exec_bind_ok.mp writing
  cases ending
  have written := tables_written nodesDone edgesDone
  have drawn := ((Job.keeps_writeTable _ _).ids_eq edgesDone).trans
    ((Job.keeps_writeTable _ _).ids_eq nodesDone)
  exact ⟨written.1, written.2, rfl, drawn⟩

/-- The tables of a training run, whatever numbers were drawn before it. -/
theorem training_ok {options : RunContext} {files : FileStore} {ids : Ids} {notices : List Notice}
    {summary : Summary} {w : Workspace} (distinct : w.ids.Distinct)
    (done : (training options).exec ⟨files, ids, notices⟩ = (.ok summary, w)) :
    ∃ records, BugRecord.readAll files options.input = .ok records ∧
      TrainingTables options (outputs options (Task.group records) ⟨files, ids, notices⟩) w.files := by
  obtain ⟨records, found, nodesWritten, edgesWritten, _, drawn⟩ := training_written done
  refine ⟨records, found, ?_⟩
  rw [drawn] at distinct
  have tabled := Task.attemptAll_tabled options (Task.group records) _ distinct
  rw [← map_snd_outputs] at nodesWritten edgesWritten tabled
  simp only [List.flatMap_map] at nodesWritten edgesWritten tabled
  refine ⟨nodesWritten, edgesWritten, tabled.consistent, outputs_separate options _ _ distinct, ?_⟩
  intro dropped r row
  exact tabled.isolated dropped r.key (List.mem_map_of_mem row)

/-- What a prediction run leaves in its files. -/
structure PredictionTables (options : RunContext) (summary : Summary) (nodes : List PredictionRow)
    (edges : List EdgeRow) (files : FileStore) : Prop where
  nodesWritten : files.read (nodesFile options.output) =
    .ok (Text.Utf8.encode (predictionTable nodes).text)
  edgesWritten : files.read (edgesFile options.output) = .ok (Text.Utf8.encode (edgeTable edges).text)
  nodesCounted : summary.nodes = nodes.length
  edgesCounted : summary.edges = edges.length
  consistent : Consistent (nodes.map PredictionRow.key) edges

/-- A prediction run that is done has written the rows around the methods of its source, and draws no
numbers after them. -/
theorem prediction_written {options : RunContext} {w after : Workspace} {summary : Summary}
    (done : (prediction options).exec w = (.ok summary, after)) :
    ∃ tree start seeds seeded hood expanded,
      (readTree options.reader options.input).exec w = (.ok tree, start) ∧
      (predictionSeeds tree tree.decls).exec start = (.ok seeds, seeded) ∧
      (expand predictionTemplate tree options.config.excludeMarker true seeds).exec seeded =
        (.ok hood, expanded) ∧
      after.ids = expanded.ids ∧
      after.files.read (nodesFile options.output) =
        .ok (Text.Utf8.encode (predictionTable ((shown hood).map predictionRow)).text) ∧
      after.files.read (edgesFile options.output) =
        .ok (Text.Utf8.encode (edgeTable (edgeRows hood)).text) ∧
      summary = ⟨1, 0, (shown hood).length, (edgeRows hood).length⟩ := by
  obtain ⟨tree, start, reading, done⟩ := Job.exec_bind_ok.mp done
  obtain ⟨seeds, seeded, seeding, done⟩ := Job.exec_bind_ok.mp done
  obtain ⟨hood, expanded, expand, done⟩ := Job.exec_bind_ok.mp done
  obtain ⟨_, methods, writing, done⟩ := Job.exec_bind_ok.mp done
  obtain ⟨_, between, nodesDone, done⟩ := Job.exec_bind_ok.mp done
  obtain ⟨_, last, edgesDone, done⟩ := Job.exec_bind_ok.mp done
  cases done
  have written := tables_written nodesDone edgesDone
  have drawn := ((Job.keeps_writeTable _ _).ids_eq edgesDone).trans
    (((Job.keeps_writeTable _ _).ids_eq nodesDone).trans
      ((keeps_writeMethods _ _ _ _).ids_eq writing))
  exact ⟨tree, start, seeds, seeded, hood, expanded, reading, seeding, expand, drawn, written.1,
    written.2, rfl⟩

/-- The tables of a prediction run, whatever numbers were drawn before it. -/
theorem prediction_ok {options : RunContext} {files : FileStore} {ids : Ids} {notices : List Notice}
    {summary : Summary} {w : Workspace} (distinct : w.ids.Distinct)
    (done : (prediction options).exec ⟨files, ids, notices⟩ = (.ok summary, w)) :
    ∃ nodes edges, PredictionTables options summary nodes edges w.files := by
  obtain ⟨tree, start, seeds, seeded, hood, expanded, _, seeding, expand, drawn, nodesWritten,
    edgesWritten, rfl⟩ := prediction_written done
  rw [drawn] at distinct
  have tabled := tabled_of_expand (predictionSeeds_ok seeding) expand distinct
  refine ⟨(shown hood).map predictionRow, edgeRows hood, nodesWritten, edgesWritten, ?_, rfl, ?_⟩
  · rw [List.length_map]
  · rw [List.map_map]
    exact tabled.consistent

/-- The tables that a training run or a prediction run writes belong together, as long as no number is
drawn twice. -/
theorem tables_consistent (options : RunContext) (files : FileStore) (notices : List Notice)
    (summary : Summary) (w : Workspace) (distinct : w.ids.Distinct) :
    ((training options).exec ⟨files, .zero, notices⟩ = (.ok summary, w) →
      ∃ records, BugRecord.readAll files options.input = .ok records ∧
        TrainingTables options (outputs options (Task.group records) ⟨files, .zero, notices⟩)
          w.files) ∧
    ((prediction options).exec ⟨files, .zero, notices⟩ = (.ok summary, w) →
      ∃ nodes edges, PredictionTables options summary nodes edges w.files) :=
  ⟨training_ok distinct, prediction_ok distinct⟩

/-- Two sources and a table with a record for each. -/
def sampleFiles : FileStore := ⟨[
  (["in.csv"], .file (Text.Utf8.encode (String.join [
    "Project,Source-file,Hash,Long-Name,Parent,Number-Of-Bugs\n",
    "p,A.java,h,A.f()V,A,1\n", "q,B.java,h,B.m()V,B,2\n"]))),
  (["A.java"], .file (Text.Utf8.encode "class A { void f() { g(); } void g() {} }")),
  (["B.java"], .file (Text.Utf8.encode "class B { void m() { m(); } }"))]⟩

/-- A run over these files. -/
def sampleOptions (input : Path) : RunContext := ⟨⟨input, ".", "out", .default⟩, .grammar⟩

/-- A training run with two tasks, one with a discovered node and one with an edge from a node to
itself, and a prediction for the source of the first task. -/
theorem tables_consistent_of_two_tasks :
    (∃ summary w,
      (training (sampleOptions "in.csv")).exec ⟨sampleFiles, .zero, []⟩ = (.ok summary, w) ∧
      w.ids = ⟨3, 2⟩ ∧
      ∃ records, BugRecord.readAll sampleFiles "in.csv" = .ok records ∧
        TrainingTables (sampleOptions "in.csv")
          (outputs (sampleOptions "in.csv") (Task.group records) ⟨sampleFiles, .zero, []⟩) w.files) ∧
    ∃ summary w,
      (prediction (sampleOptions "A.java")).exec ⟨sampleFiles, .zero, []⟩ = (.ok summary, w) ∧
      w.ids = ⟨2, 1⟩ ∧
      ∃ nodes edges, PredictionTables (sampleOptions "A.java") summary nodes edges w.files := by
  have trained :
      ((training (sampleOptions "in.csv")).exec ⟨sampleFiles, .zero, []⟩).1.toOption.isSome = true ∧
      ((training (sampleOptions "in.csv")).exec ⟨sampleFiles, .zero, []⟩).2.ids = ⟨3, 2⟩ := by
    decide +kernel
  have predicted :
      ((prediction (sampleOptions "A.java")).exec ⟨sampleFiles, .zero, []⟩).1.toOption.isSome = true ∧
      ((prediction (sampleOptions "A.java")).exec ⟨sampleFiles, .zero, []⟩).2.ids = ⟨2, 1⟩ := by
    decide +kernel
  have few : ∀ {ids : Ids} {nodes groups : Nat}, ids = ⟨nodes, groups⟩ → nodes ≤ idLimit →
      groups ≤ idLimit → ids.Distinct := by
    rintro _ _ _ rfl fewNodes fewGroups
    exact ⟨fewNodes, fewGroups⟩
  obtain ⟨summary, done⟩ := Job.exec_ok_of_toOption trained.1
  obtain ⟨summary', done'⟩ := Job.exec_ok_of_toOption predicted.1
  refine ⟨⟨summary, _, done, trained.2, ?_⟩, ⟨summary', _, done', predicted.2, ?_⟩⟩
  · exact (tables_consistent (sampleOptions "in.csv") sampleFiles [] summary _
      (few trained.2 (by decide) (by decide))).1 done
  · exact (tables_consistent (sampleOptions "A.java") sampleFiles [] summary' _
      (few predicted.2 (by decide) (by decide))).2 done'

end Run

end DefectGraph
