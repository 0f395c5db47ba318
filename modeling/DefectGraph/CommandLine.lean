import DefectGraph.Config

/-!
# The command line

## Main Definitions

* `Arguments` - what the command line asks for.
* `ArgumentError` - why a command line is refused, or what it asks for instead.
* `Arguments.read` - reads a command line.
* `Arguments.override` - the settings with those of the command line over them.

## Design Notes

A command line is read from left to right. A value that stands apart from its option is looked at only
when the next option comes or the line ends, so that a word without meaning in between is reported first.
What has to hold between options is checked at the end.
-/

namespace DefectGraph

open DefectGraph.Number

/-- The options that take a value. -/
inductive ValueOption where
  | input
  | workingDirectory
  | output
  | jobs
  | excludeMarker
  deriving DecidableEq, Repr

/-- The options that take none. -/
inductive Switch where
  | keepIsolated
  | printConfig
  | quiet
  | verbose
  | help
  | version
  deriving DecidableEq, Repr

/-- Why a command line is refused, or what it asks for instead of a run. -/
inductive ArgumentError where
  | unknown
  | missingValue (option : ValueOption)
  | emptyPath (option : ValueOption)
  | badCount (error : IntegerError)
  | repeated
  /-- A value is attached to an option that takes none. -/
  | unneededValue (option : Switch)
  /-- Being quiet and being verbose exclude each other. -/
  | quietAndVerbose
  | missingInput
  | helpAsked
  | versionAsked
  deriving DecidableEq, Repr

/-- What the command line asks for. -/
structure Arguments where
  input : Option Path
  givenWorkingDirectory : Option Path
  givenOutput : Option Path
  jobs : Option Nat
  excludeMarker : Option String
  keepIsolated : Bool
  printConfig : Bool
  quiet : Bool
  /-- How often more output was asked for. -/
  verbose : Nat
  deriving DecidableEq, Repr

namespace Arguments

/-- Nothing. -/
def none : Arguments := ⟨.none, .none, .none, .none, .none, false, false, false, 0⟩

/-- The directory that source files are looked up in. -/
def workingDirectory (a : Arguments) : Path := a.givenWorkingDirectory.getD "."

/-- The directory that is written to. -/
def output (a : Arguments) : Path := a.givenOutput.getD "output"

/-- How often more output can be asked for. -/
def verboseLimit : Nat := 255

/-! ### Options -/

/-- An option has been given a value. -/
def isGiven (a : Arguments) : ValueOption → Bool
  | .input => a.input.isSome
  | .workingDirectory => a.givenWorkingDirectory.isSome
  | .output => a.givenOutput.isSome
  | .jobs => a.jobs.isSome
  | .excludeMarker => a.excludeMarker.isSome

/-- A path as the value of an option. -/
def readPath (option : ValueOption) (value : String) : Except ArgumentError Path :=
  if value.isEmpty then .error (.emptyPath option) else .ok value

/-- A count as the value of an option. -/
def readJobs (value : String) : Except ArgumentError Nat :=
  match Integer.parse 10 .unsigned64 value.toList with
  | .ok n => .ok n.toNat
  | .error e => .error (.badCount e)

/-- Gives an option its value. -/
def give (a : Arguments) (option : ValueOption) (value : String) : Except ArgumentError Arguments :=
  if a.isGiven option then .error .repeated
  else
    match option with
    | .input => (readPath option value).map fun path => { a with input := some path }
    | .workingDirectory => (readPath option value).map fun path => { a with givenWorkingDirectory := some path }
    | .output => (readPath option value).map fun path => { a with givenOutput := some path }
    | .jobs => (readJobs value).map fun n => { a with jobs := some n }
    | .excludeMarker => .ok { a with excludeMarker := some value }

/-- Turns a switch on. -/
def turnOn (a : Arguments) : Switch → Except ArgumentError Arguments
  | .keepIsolated => if a.keepIsolated then .error .repeated else .ok { a with keepIsolated := true }
  | .printConfig => if a.printConfig then .error .repeated else .ok { a with printConfig := true }
  | .quiet => if a.quiet then .error .repeated else .ok { a with quiet := true }
  | .verbose => .ok { a with verbose := min (a.verbose + 1) verboseLimit }
  | .help => .error .helpAsked
  | .version => .error .versionAsked

/-- An option of either kind. -/
inductive AnyOption where
  | value (option : ValueOption)
  | switch (option : Switch)

/-- The options by their long names. -/
def longNames : List (String × AnyOption) :=
  [("input", .value .input), ("working-directory", .value .workingDirectory), ("output", .value .output),
   ("jobs", .value .jobs), ("exclude-marker", .value .excludeMarker),
   ("keep-isolated", .switch .keepIsolated), ("print-config", .switch .printConfig),
   ("quiet", .switch .quiet), ("verbose", .switch .verbose), ("help", .switch .help),
   ("version", .switch .version)]

/-- The options by their letters. -/
def letters : List (Char × AnyOption) :=
  [('i', .value .input), ('w', .value .workingDirectory), ('o', .value .output), ('j', .value .jobs),
   ('v', .switch .verbose), ('h', .switch .help), ('V', .switch .version)]

/-! ### Reading -/

/-- An option whose value stands apart, with the value once it is there. -/
structure Pending where
  option : ValueOption
  value : Option String

/-- How far a command line has been read. -/
structure Progress where
  arguments : Arguments
  pending : Option Pending

/-- Gives the option that waits its value. -/
def Progress.settle (p : Progress) : Except ArgumentError Arguments :=
  match p.pending with
  | .none => .ok p.arguments
  | .some ⟨option, .none⟩ => .error (.missingValue option)
  | .some ⟨option, .some value⟩ => p.arguments.give option value

/-- Meets an option with its value, if that is attached. -/
def Progress.meetValue (p : Progress) (option : ValueOption) (attached : Option String) :
    Except ArgumentError Progress := do
  let arguments ← p.settle
  match attached with
  | .some value => return ⟨← arguments.give option value, .none⟩
  | .none => return ⟨arguments, .some ⟨option, .none⟩⟩

/-- Meets a switch. -/
def Progress.meetSwitch (p : Progress) (option : Switch) : Except ArgumentError Progress := do
  return ⟨← (← p.settle).turnOn option, .none⟩

/-- Meets a long name. -/
def Progress.meetLong (p : Progress) (name : String) (attached : Option String) :
    Except ArgumentError Progress :=
  match longNames.lookup name, attached with
  | .none, _ => .error .unknown
  | .some (.value option), attached => p.meetValue option attached
  | .some (.switch option), .some _ => .error (.unneededValue option)
  | .some (.switch option), .none => p.meetSwitch option

/-- The value that is attached to a letter, after an optional equals sign. -/
def attachedValue : List Char → Option String
  | [] => .none
  | '=' :: value => .some (String.ofList value)
  | value => .some (String.ofList value)

/-- Meets letters in one word; all that follows the letter of an option with a value is its value. -/
def Progress.meetLetters (p : Progress) : List Char → Except ArgumentError Progress
  | [] => .ok p
  | c :: rest =>
    match letters.lookup c with
    | .none => .error .unknown
    | .some (.value option) => p.meetValue option (attachedValue rest)
    | .some (.switch option) => do (← p.meetSwitch option).meetLetters rest

/-- Meets a word that is no option: the value that an option waits for. -/
def Progress.meetPlain (p : Progress) (word : String) : Except ArgumentError Progress :=
  match p.pending with
  | .some ⟨option, .none⟩ => .ok ⟨p.arguments, .some ⟨option, .some word⟩⟩
  | _ => .error .unknown

/-- Splits a long option at its first equals sign. -/
def splitLong (text : List Char) : String × Option String :=
  let (name, rest) := text.span fun c => c != '='
  match rest with
  | [] => (String.ofList name, .none)
  | _ :: value => (String.ofList name, .some (String.ofList value))

/-- Meets a word. -/
def Progress.meet (p : Progress) (word : String) : Except ArgumentError Progress :=
  match word.toList with
  | '-' :: '-' :: text =>
    let (name, attached) := splitLong text
    p.meetLong name attached
  | ['-'] => p.meetPlain word
  | '-' :: text => p.meetLetters text
  | _ => p.meetPlain word

/-- Meets words one after the other. After a double dash no word has a meaning. -/
def Progress.meetAll (p : Progress) : List String → Except ArgumentError Progress
  | [] => .ok p
  | word :: rest =>
    if word == "--" then if rest.isEmpty then .ok p else .error .unknown
    else do (← p.meet word).meetAll rest

/-- Checks what has to hold between options. -/
def check (a : Arguments) : Except ArgumentError Arguments :=
  if a.quiet && a.verbose != 0 then .error .quietAndVerbose
  else if a.input.isNone && !a.printConfig then .error .missingInput
  else .ok a

/-- Reads a command line. -/
def read (words : List String) : Except ArgumentError Arguments := do
  let p ← (⟨none, .none⟩ : Progress).meetAll words
  check (← p.settle)

/-- The settings with those of the command line over them. -/
def override (a : Arguments) (c : Config) : Config :=
  { c with
    workers := a.jobs.getD c.workers
    excludeMarker := a.excludeMarker.getD c.excludeMarker
    keepIsolated := a.keepIsolated || c.keepIsolated }

end Arguments

end DefectGraph
