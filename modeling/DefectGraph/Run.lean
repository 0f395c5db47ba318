import DefectGraph.Config
import DefectGraph.Graph.Component
import DefectGraph.Graph.Extract
import DefectGraph.Source.Reader
import DefectGraph.Task
import DefectGraph.Workspace

/-!
# Runs

A training run takes a table of bug records, a prediction run a single source file. Both write the call
graphs around what they start from: a table of nodes, a table of edges, and the text of every method.

## Main Definitions

* `Mode.ofInput` - which kind of run an input asks for.
* `RunContext` - what a run works on, and how it reads source texts.
* `Run.readTree` - the tree of a source file.
* `Task.work` - the rows of one task.
* `Task.attempt` - a task whose failure is only reported.
* `Run.training`, `Run.prediction` - the two kinds of run.
* `Run.startWith`, `Run.start` - a run of the kind that its input asks for.

## Design Notes

A source with syntax errors is no failure: a run says so and goes on with the tree that its reader has
made. Only a source of which the reader makes no tree at all fails its task, or the prediction. The reader
is a part of the run's context, and nothing else in a run looks at the text of a source.
-/

namespace DefectGraph

open DefectGraph.Graph DefectGraph.Source

/-- The kinds of run. -/
inductive Mode where
  | training
  | prediction
  deriving DecidableEq, Repr

/-- A source file asks for a prediction, everything else for training. -/
def Mode.ofInput (input : Path) : Mode :=
  if input.extension? == some "java" then .prediction else .training

/-- What a run works on. -/
structure RunOptions where
  /-- The table of records, or the source file. -/
  input : Path
  /-- The directory that the source files of records are looked up in. -/
  workingDir : Path
  output : Path
  config : Config
  deriving DecidableEq, Repr

/-- What a run works on, and how it reads source texts. -/
structure RunContext extends RunOptions where
  reader : Reader

/-- What a run has done. -/
structure Summary where
  tasks : Nat
  failed : Nat
  nodes : Nat
  edges : Nat
  deriving DecidableEq, Repr

/-- The rows that a task adds to the tables. -/
structure Rows where
  nodes : List NodeRow
  edges : List EdgeRow
  deriving DecidableEq, Repr

/-- No rows. -/
def Rows.none : Rows := ⟨[], []⟩

namespace Run

/-! ### Steps that both kinds of run take -/

/-- What there is to report about a tree. -/
def treeNotices (tree : Tree) : List Notice :=
  if tree.hasErrors then [.syntaxErrors] else []

/-- The tree of a source file; it may come from a text with syntax errors, with a notice. -/
def readTree (reader : Reader) (path : Path) : Job Tree := do
  match reader.read (← Job.readSource path) with
  | some tree =>
    Job.report (treeNotices tree)
    return tree
  | none => throw (.unparsed path)

/-- The call graph around seeds, without what is hidden, in groups. -/
def expand (template : Template) (tree : Tree) (marker : String) (keepIsolated : Bool)
    (seeds : List Node) : Job Neighborhood := do
  match extract? template tree seeds (← get).ids with
  | none => throw .overflow
  | some (hood, _, ids) =>
    let (hood, _, ids) := (hood.filter marker).partition keepIsolated ids
    modify fun w => { w with ids }
    return hood

/-- The nodes that are in a group. -/
def shown (hood : Neighborhood) : List Node :=
  hood.nodes.filter fun n => n.graphId.isSome

/-- The row of an edge whose ends are both there. -/
def edgeRow? (hood : Neighborhood) (e : Edge) : Option EdgeRow := do
  let source ← hood.node? e.source
  let destination ← hood.node? e.destination
  return ⟨source.id, destination.id, e.graphId⟩

/-- The rows of the edges. -/
def edgeRows (hood : Neighborhood) : List EdgeRow := hood.edges.filterMap (edgeRow? hood)

/-- Writes the text of each node's declaration to the file named for it. -/
def writeMethods (output : Path) (tree : Tree) (file : Node → Path) : List Node → Job Unit
  | [] => return ()
  | n :: rest => do
    Job.writeFile output (file n) (tree.bytesOf n.decl)
    writeMethods output tree file rest

/-- The file with the names of nodes. -/
def nodesFile (output : Path) : Path := output.join "nodes.csv"

/-- The file with the edges. -/
def edgesFile (output : Path) : Path := output.join "edges.csv"

end Run

/-! ### Tasks -/

namespace Task

/-- The seed of a record that names a declaration. -/
def seed (classFile : Path) (tree : Tree) (r : BugRecord) (decl : DeclId) (id : Nat) : Node :=
  { decl, id
    project := r.project
    hash := r.hash
    parent := r.parent
    classSourceFile := classFile
    signature := r.parent ++ "." ++ tree.signature decl
    longName := some r.longName
    bugs := r.bugs
    seed := true
    valid := true
    explicitSuper := false
    graphId := none }

/-- The seeds of records; records that name no declaration are reported and passed over. -/
def seeds (source : SourceVersion) (tree : Tree) : List BugRecord → Job (List Node)
  | [] => return []
  | r :: rest => do
    match LongName.find tree r.longName with
    | .error e =>
      Job.report [.skippedRecord source.label r.longName e]
      seeds source tree rest
    | .ok found =>
      Job.report (found.ignored.map fun other =>
        .ambiguousName r.longName (tree.signature found.decl) (tree.signature other))
      let id ← Job.drawNode
      let others ← seeds source tree rest
      return seed source.classFile tree r found.decl id :: others

/-- The file with the text of a node's declaration. -/
def methodFile (n : Node) : Path := n.project ++ "/methods/" ++ toString n.id ++ ".java"

/-- The row of a node. -/
def nodeRow (n : Node) : NodeRow :=
  ⟨n.id, n.project, n.classSourceFile, methodFile n, n.hash, n.signature, n.parent, n.bugs, n.graphId⟩

/-- Works on a task: copies its source, finds the declarations of its records and writes those around
them. -/
def work (options : RunContext) (task : Task) : Job Rows := do
  let source := task.source
  let path := options.workingDir.join source.sourceFile
  let tree ← Run.readTree options.reader path
  Job.copyOnce path options.output source.classFile
  let template : Template := ⟨source.project, source.hash, source.classFile, true⟩
  let seeds ← seeds source tree task.records
  if seeds.isEmpty then return .none
  let hood ← Run.expand template tree options.config.excludeMarker options.config.keepIsolated seeds
  Run.writeMethods options.output tree methodFile (Run.shown hood)
  return ⟨(Run.shown hood).map nodeRow, Run.edgeRows hood⟩

/-- Works on a task; when it fails, that is reported and there are no rows. -/
def attempt (options : RunContext) (task : Task) : StateM Workspace (Option Rows) := do
  match ← (work options task).run with
  | .ok rows => return some rows
  | .error failure =>
    modify fun w => { w with notices := w.notices ++ [.failedTask task.source.label failure] }
    return none

/-- Works on tasks one after the other. -/
def attemptAll (options : RunContext) : List Task → StateM Workspace (List (Option Rows))
  | [] => return []
  | task :: rest => do
    let rows ← attempt options task
    let others ← attemptAll options rest
    return rows :: others

end Task

/-! ### The two kinds of run -/

namespace Run

/-- A training run: works on the tasks of the records and writes the rows of those that do not fail. -/
def training (options : RunContext) : Job Summary := do
  let tasks := Task.group (← Job.readRecords options.input)
  let results ← (Task.attemptAll options tasks : StateM Workspace (List (Option Rows)))
  let done := results.filterMap id
  let nodes := done.flatMap Rows.nodes
  let edges := done.flatMap Rows.edges
  Job.writeTable (nodeTable nodes) (nodesFile options.output)
  Job.writeTable (edgeTable edges) (edgesFile options.output)
  return ⟨tasks.length, tasks.length - done.length, nodes.length, edges.length⟩

/-- The template of a prediction, which knows of no project. -/
def predictionTemplate : Template := ⟨"", "", "", false⟩

/-- The seeds of a prediction: every method. -/
def predictionSeeds (tree : Tree) : List Declaration → Job (List Node)
  | [] => return []
  | d :: rest => do
    if d.kind == .method then
      let id ← Job.drawNode
      let others ← predictionSeeds tree rest
      return { predictionTemplate.node tree d.id id with seed := true } :: others
    else predictionSeeds tree rest

/-- The file with the text of a node's declaration. -/
def methodFile (n : Node) : Path := "methods/" ++ toString n.id ++ ".java"

/-- The row of a node of a prediction. -/
def predictionRow (n : Node) : PredictionRow := ⟨n.id, methodFile n, n.signature, n.graphId⟩

/-- A prediction run: writes all methods of a source file, those without edges as groups of one. -/
def prediction (options : RunContext) : Job Summary := do
  let tree ← readTree options.reader options.input
  let seeds ← predictionSeeds tree tree.decls
  let hood ← expand predictionTemplate tree options.config.excludeMarker true seeds
  let nodes := shown hood
  writeMethods options.output tree methodFile nodes
  let edges := edgeRows hood
  Job.writeTable (predictionTable (nodes.map predictionRow)) (nodesFile options.output)
  Job.writeTable (edgeTable edges) (edgesFile options.output)
  return ⟨1, 0, nodes.length, edges.length⟩

/-- A run of the kind that its input asks for. -/
def startWith (options : RunContext) : Job Summary := do
  Job.change (.createOutput options.output) fun files => files.makeDirectories options.output
  match Mode.ofInput options.input with
  | .training => training options
  | .prediction => prediction options

/-- A run that reads sources as the grammar says. -/
def start (options : RunOptions) : Job Summary :=
  startWith ⟨options, .grammar⟩

end Run

end DefectGraph
