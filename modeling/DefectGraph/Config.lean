import DefectGraph.FileStore
import DefectGraph.Toml.Reader

/-!
# Configuration

Settings come from a file, from environment variables and from the command line, each layer over the one
before.

## Main Definitions

* `Config` - the effective settings.
* `Config.load` - the settings of the first two layers.
* `Config.toToml` - the settings as a configuration document.

## Design Notes

A layer is a list of named values of whatever type its source has, and layers are appended: the last value of
a name counts. Values are converted only once all layers are there, so a value that does not suit its setting
is no error when a later layer gives another one. Command-line options come last and have their types
already.
-/

namespace DefectGraph

open DefectGraph.Number DefectGraph.Toml

/-- The settings of a run. -/
structure Config where
  /-- The number of workers. -/
  workers : Nat
  /-- Nodes whose signature holds this text are not shown; the empty text hides none. -/
  excludeMarker : String
  /-- The seconds after which a task counts as slow. -/
  shutdownGraceSecs : Nat
  /-- Seeds without edges are shown as groups of one. -/
  keepIsolated : Bool
  deriving DecidableEq, Repr

namespace Config

/-- The settings when nothing is set. -/
def default : Config := ⟨10, "test", 60, false⟩

/-- Why settings cannot be loaded. -/
inductive LoadError where
  /-- The file cannot be read as a document. -/
  | unreadable
  /-- A value has no meaning for its setting. -/
  | unsuitable
  deriving DecidableEq, Repr

/-- The text that reports the error. -/
def LoadError.message : LoadError → String
  | .unreadable => "Failed to load configuration"
  | .unsuitable => "Failed to parse configuration"

/-! ### Values as settings -/

/-- A natural number of 64 bits in text: a word for yes or no, or digits. -/
def textToUnsigned? (text : String) : Option Nat :=
  let word := String.ofList (Binary64.lower text.toList)
  if ["true", "on", "yes"].contains word then some 1
  else if ["false", "off", "no"].contains word then some 0
  else (Integer.parse 10 .unsigned64 text.toList).toOption.map Int.toNat

/-- A value as a natural number of 64 bits. -/
def unsigned? : Value → Option Nat
  | .integer value => if 0 ≤ value then some value.toNat else none
  | .bool value => some (if value then 1 else 0)
  | .float value => some value.toUnsigned
  | .text text | .date text => textToUnsigned? text
  | .compound => none

/-- A word for yes or no. -/
def textToBool? (text : String) : Option Bool :=
  let word := String.ofList (Binary64.lower text.toList)
  if ["1", "true", "on", "yes"].contains word then some true
  else if ["0", "false", "off", "no"].contains word then some false
  else none

/-- A value as yes or no. -/
def bool? : Value → Option Bool
  | .integer value => some (value != 0)
  | .bool value => some value
  | .float value => some !value.isZero
  | .text text | .date text => textToBool? text
  | .compound => none

/-- A value as text. -/
def text? : Value → Option String
  | .integer value => some (toString value)
  | .bool value => some (if value then "true" else "false")
  | .float value => some value.text
  | .text text | .date text => some text
  | .compound => none

/-! ### Layers -/

/-- Values by the names of settings; a later value counts. -/
abbrev Layer : Type := List (String × Value)

/-- The value of a setting. -/
def setting? (layer : Layer) (name : String) : Option Value :=
  layer.reverse.lookup name

/-- A setting read from its value, or the default when it has none. -/
def readSetting {α : Type} (layer : Layer) (name : String) (convert : Value → Option α) (fallback : α) :
    Option α :=
  match setting? layer name with
  | some value => convert value
  | none => some fallback

/-- The names of the settings. -/
def settingNames : List String := ["workers", "exclude_marker", "shutdown_grace_secs", "keep_isolated"]

/-- The settings that values stand for. -/
def ofLayer? (layer : Layer) : Option Config := do
  let workers ← readSetting layer "workers" unsigned? default.workers
  let marker ← readSetting layer "exclude_marker" text? default.excludeMarker
  let grace ← readSetting layer "shutdown_grace_secs" unsigned? default.shutdownGraceSecs
  let isolated ← readSetting layer "keep_isolated" bool? default.keepIsolated
  return ⟨workers, marker, grace, isolated⟩

/-- Passes over a dot and a name, or a number in brackets. -/
def afterStep? (text : List Char) : Option (List Char) :=
  match text with
  | '.' :: rest =>
    let (name, rest) := rest.span isKeyChar
    if name.isEmpty then none else some rest
  | '[' :: rest =>
    let rest := dropBlanks rest
    let digits := match rest with
      | '-' :: rest => rest
      | rest => rest
    let (number, rest) := digits.span Char.isDigit
    match dropBlanks rest with
    | ']' :: rest => if number.isEmpty then none else some rest
    | _ => none
  | _ => none

/-- The rest of a name is a path of steps. -/
def isSteps (rounds text : List Char) : Bool :=
  match rounds, text with
  | _, [] => true
  | [], _ => false
  | _ :: rounds, text =>
    match afterStep? text with
    | some rest => isSteps rounds rest
    | none => false

/-- A value under its name. A name that is a path sets a part of what its first name stands for, so that
this becomes a compound. -/
def named (name : String) (value : Value) : String × Value :=
  let (first, rest) := name.toList.span isKeyChar
  if first.isEmpty || rest.isEmpty || !isSteps rest rest then (name, value)
  else (String.ofList first, .compound)

/-- The values of a document. -/
def ofDocument (document : Document) : Layer :=
  document.map fun (name, entry) => named name entry.toValue

/-- A name in lower case. The Kelvin sign is the only letter beyond the plain ones that has a plain one
for its lower case. -/
def lowerName (name : List Char) : List Char :=
  name.map fun c => if c == '\u212A' then 'k' else c.toLower

/-- The start of the names of environment variables that are settings. -/
def variableStart : String := "sdpgraph_"

/-- The value that the text of an environment variable stands for: yes or no, a number, or the text. -/
def variableValue (text : String) : Value :=
  let word := String.ofList (Binary64.lower text.toList)
  if word == "true" then .bool true
  else if word == "false" then .bool false
  else
    match Integer.parse 10 .signed64 text.toList with
    | .ok value => .integer value
    | .error _ =>
      match Binary64.parse? text.toList with
      | some value => .float value
      | none => .text text

/-- The value of an environment variable under its name, if it is a setting. -/
def fromVariable? (name text : String) : Option (String × Value) :=
  let start := variableStart.toList
  let lowered := lowerName name.toList
  if start.isPrefixOf lowered then
    some (named (String.ofList (lowered.drop start.length)) (variableValue text))
  else none

/-- The values of environment variables. -/
def ofEnvironment (env : List (String × String)) : Layer :=
  env.filterMap fun (name, text) => fromVariable? name text

/-! ### Loading -/

/-- The names of configuration files; the first one that is there counts. -/
def fileNames : List String := ["sdpgraph.toml", ".sdpgraph.toml"]

/-- The values of the configuration file in a directory, if there is one. -/
def fileLayer (files : FileStore) (dir : Path) : Except LoadError Layer :=
  match (fileNames.map (Path.join dir)).find? files.hasPath with
  | none => .ok []
  | some path =>
    match files.read path with
    | .error _ => .error .unreadable
    | .ok content =>
      match Document.read? (Text.Utf8.decodeLossy content) with
      | some document => .ok (ofDocument document)
      | none => .error .unreadable

/-- Loads the settings from the file in a directory and from environment variables. -/
def load (files : FileStore) (env : List (String × String)) (dir : Path) : Except LoadError Config := do
  let layer ← fileLayer files dir
  match ofLayer? (layer ++ ofEnvironment env) with
  | some config => return config
  | none => throw .unsuitable

/-! ### Printing -/

/-- The settings as a configuration document. -/
def toToml (c : Config) : String :=
  "workers = " ++ toString c.workers ++ "\n"
    ++ "exclude_marker = " ++ String.ofList (quote c.excludeMarker.toList) ++ "\n"
    ++ "shutdown_grace_secs = " ++ toString c.shutdownGraceSecs ++ "\n"
    ++ "keep_isolated = " ++ (if c.keepIsolated then "true" else "false") ++ "\n"

end Config

end DefectGraph
