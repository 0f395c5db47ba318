import DefectGraph.CommandLine
import DefectGraph.Run

/-!
# The program

The program as a function of its command line, its environment and the files it sees.

## Main Definitions

* `Outcome` - the code that the program ends with, what it prints, and the files that it leaves.
* `run` - the program.
* `firstPaths`, `laterPaths` - the files that it looks at.

## Design Notes

Files are a value, `FileStore`, that is passed in and given back. So what the program does is determined by
its arguments, and statements about it need no model of a file system beside the one that runs.
-/

namespace DefectGraph.Program

/-- The lines that explain the command line. -/
def helpLines : List String :=
  ["Locate buggy Java methods by JVM long name and export their call neighborhoods as node/edge tables",
   "",
   "Usage: sdpgraph [OPTIONS]",
   "",
   "Options:",
   "  -i, --input <INPUT>",
   "          Bug-record CSV, or a single .java file for prediction mode",
   "  -w, --working-directory <WORKING_DIRECTORY>",
   "          Directory the records' source paths are relative to [default: .]",
   "  -o, --output <OUTPUT>",
   "          Output directory for tables and snippet files [default: output]",
   "  -j, --jobs <JOBS>",
   "          Worker threads (overrides `workers` from config)",
   "      --exclude-marker <EXCLUDE_MARKER>",
   "          Drop nodes whose signature contains this text (empty disables)",
   "      --keep-isolated",
   "          Emit seeds without edges as single-node groups",
   "      --print-config",
   "          Print the effective configuration as TOML and exit",
   "      --quiet",
   "          Only log warnings and errors",
   "  -v, --verbose...",
   "          More log output (-v debug, -vv trace)",
   "  -h, --help",
   "          Print help",
   "  -V, --version",
   "          Print version"]

/-- The text that explains the command line. -/
def helpText : String := String.join (helpLines.map fun line => line ++ "\n")

/-- The text that names the version. -/
def versionText : String := "sdpgraph 0.1.0\n"

/-- What the program leaves behind. -/
structure Outcome where
  /-- Zero after success. -/
  code : Nat
  /-- What is printed. -/
  output : String
  files : FileStore
  notices : List Notice
  /-- What ended the program early. -/
  complaint : Option String

/-- The options of a run that the command line asks for. -/
def runOptions (arguments : Arguments) (input : Path) (config : Config) : RunOptions :=
  ⟨input, arguments.workingDirectory, arguments.output, config⟩

/-- Runs with an input. -/
def runWith (options : RunOptions) (files : FileStore) : Outcome :=
  let (result, w) := ((Run.start options).run).run ⟨files, .zero, []⟩
  match result with
  | .ok _ => ⟨0, "", w.files, w.notices, none⟩
  | .error failure => ⟨1, "", w.files, w.notices, some failure.message⟩

/-- Does what a command line that was read asks for. -/
def perform (arguments : Arguments) (env : List (String × String)) (files : FileStore) : Outcome :=
  match Config.load files env "." with
  | .error e => ⟨1, "", files, [], some e.message⟩
  | .ok loaded =>
    let config := arguments.override loaded
    if arguments.printConfig then ⟨0, config.toToml, files, [], none⟩
    else
      match arguments.input with
      | none => ⟨1, "", files, [], some "--input is required"⟩
      | some input => runWith (runOptions arguments input config) files

/-- The program. -/
def run (words : List String) (env : List (String × String)) (files : FileStore) : Outcome :=
  match Arguments.read words with
  | .ok arguments => perform arguments env files
  | .error .helpAsked => ⟨0, helpText, files, [], none⟩
  | .error .versionAsked => ⟨0, versionText, files, [], none⟩
  | .error _ => ⟨1, "", files, [], some "the command line is not understood"⟩

/-! ### What the program looks at -/

/-- The paths that the program looks at whatever its files hold: the files with settings, the input and
the output directory. -/
def firstPaths (words : List String) : List Path :=
  match Arguments.read words with
  | .ok arguments =>
    Config.fileNames.map (Path.join ".") ++ arguments.input.toList ++ [arguments.output]
  | .error _ => []

/-- The paths that a task looks at. -/
def taskPaths (arguments : Arguments) (task : Task) : List Path :=
  [arguments.workingDirectory.join task.source.sourceFile,
   arguments.output.join task.source.classFile,
   arguments.output.join (task.source.project ++ "/methods")]

/-- The paths that the program looks at once the input is known. -/
def laterPaths (words : List String) (files : FileStore) : List Path :=
  match Arguments.read words with
  | .ok arguments =>
    let records := match arguments.input with
      | some input => (BugRecord.readAll files input).toOption.getD []
      | none => []
    [Run.nodesFile arguments.output, Run.edgesFile arguments.output, arguments.output.join "methods"]
      ++ (Task.group records).flatMap (taskPaths arguments)
  | .error _ => []

end DefectGraph.Program
