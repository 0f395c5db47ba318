import DefectGraph.Program

/-!
# The command

Loads the files that the program looks at, runs it, and writes the files that it leaves changed.

Nothing is decided here. The program is a function of the files that it sees, and to know which files those
are it is asked twice: first for the paths that its words alone make it look at, then for those that the
records in these files name.
-/

namespace DefectGraph.Command

/-- Loads what is at a path, and the directories that lead there. -/
def load (files : FileStore) (path : Path) : IO FileStore := do
  let mut loaded := files
  for above in (FileStore.ancestors path.toList path).reverse do
    match loaded.locate above with
    | .error _ => pure ()
    | .ok place =>
      if (loaded.at? place).isNone then
        let entry : IO.FS.DirEntry := ⟨above, ""⟩
        if ← entry.root.isDir then loaded := loaded.put place .directory
        else if ← entry.root.pathExists then
          let content ← IO.FS.readBinFile above
          loaded := loaded.put place (.file content.toList)
  return loaded

/-- Loads what is at several paths. -/
def loadAll (files : FileStore) (paths : List Path) : IO FileStore := paths.foldlM load files

/-- The path of a place. -/
def pathOf : Location → Path
  | "/" :: rest => "/" ++ "/".intercalate rest
  | place => "/".intercalate place

/-- Writes what has changed. -/
def store (before after : FileStore) : IO Unit := do
  for (place, entry) in after.entries do
    if before.at? place != some entry then
      match entry with
      | .directory => IO.FS.createDirAll (pathOf place)
      | .file content => IO.FS.writeBinFile (pathOf place) content.toByteArray

/-- The environment variables that can hold settings, in upper and in lower case. -/
def environment : IO (List (String × String)) := do
  let names := Config.settingNames.map fun name => Config.variableStart ++ name
  let mut found := []
  for name in names ++ names.map String.toUpper do
    if let some value ← IO.getEnv name then found := found ++ [(name, value)]
  return found

/-- Prints a notice. -/
def print (notice : Notice) : IO Unit := do
  let details := notice.fields.map fun (name, value) => " " ++ name ++ "=" ++ value
  IO.eprintln (notice.message ++ String.join details)

end DefectGraph.Command

open DefectGraph DefectGraph.Command in
/-- The command. -/
def main (words : List String) : IO UInt32 := do
  let env ← environment
  let first ← loadAll .empty (Program.firstPaths words)
  let before ← loadAll first (Program.laterPaths words first)
  let outcome := Program.run words env before
  store before outcome.files
  IO.print outcome.output
  outcome.notices.forM print
  if let some complaint := outcome.complaint then IO.eprintln complaint
  return outcome.code.toUInt32
