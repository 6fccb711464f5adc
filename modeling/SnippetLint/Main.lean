import SnippetLint.Program.Run

/-!
# The program

Runs the program on the files of the machine. Only the files that an invocation names are read,
with all that is below the directories among them, and what the run changes is written back.
-/

namespace SnippetLint

/-- The names on a path from the root. A double dot takes back the name before it. -/
def absoluteNames (path : String) : List String :=
  ((Path.components path.toList).foldl (fun names component =>
    if component = ['.', '.'] then names.dropLast else names ++ [component]) []).map .ofList

/-- The path of a place. -/
def pathOfPlace (place : List String) : String := String.join (place.map ("/" ++ ·))

/-- Reads a file, or a directory with all that is below it. -/
partial def readTree (path : String) : IO FileTree := do
  let place := (← IO.currentDir) / path
  if ← place.isDir then
    let entries ← place.readDir
    return .directory (← entries.toList.mapM fun e => do
      return (e.fileName, ← readTree (path ++ "/" ++ e.fileName)))
  else return .file (← IO.FS.readBinFile place)

/-- Adds what a path leads to, if anything is there. With `whole`, all that is below a directory is
added too, and without it the directory alone. -/
def addPath (whole : Bool) (root : FileTree) (path : String) : IO FileTree := do
  let here ← IO.currentDir
  let names := absoluteNames (here / path).toString
  let place := here / pathOfPlace names
  if !(← place.pathExists) then return root
  if (root.get? names).isSome && !whole then return root
  let tree ← if whole || !(← place.isDir) then readTree (pathOfPlace names) else pure .empty
  return root.put names tree

/-- The paths that an invocation reads, and those that it only has to know of. -/
def Command.paths : Command → List String × List String
  | .analyze arguments => (arguments.paths ++ arguments.config.toList, [])
  | .generate arguments =>
    ([], (arguments.output.toList.flatMap fun path =>
      (Path.ancestors path.toList).map String.ofList).reverse)
  | .rules arguments => (arguments.config.toList, [])

/-- The directory for the configuration of the user. -/
def configDirectory? : IO (Option String) := do
  match ← IO.getEnv "XDG_CONFIG_HOME" with
  | some directory => return some (directory ++ "/" ++ programName)
  | none => return (← IO.getEnv "HOME").map (· ++ "/.config/" ++ programName)

/-- Finds what an invocation needs on the machine. -/
def findWorld (i : Invocation) : IO World := do
  let here := (← IO.currentDir).toString
  let configDirectory ← configDirectory?
  let configs := Run.configNames ++
    configDirectory.toList.flatMap fun directory => Run.configNames.map (directory ++ "/" ++ ·)
  let (read, known) := i.command.paths
  let place := absoluteNames here
  let root := FileTree.empty.put place .empty
  let root ← known.foldlM (addPath false) root
  let root ← configs.foldlM (addPath true) root
  let root ← (read.filter (· != Input.standardPath)).foldlM (addPath true) root
  let needsInput := read.contains Input.standardPath
  let input ← if needsInput then pure (← (← IO.getStdin).readToEnd).toUTF8 else pure .empty
  return { files := ⟨root, place⟩, configDirectory, input }

/-- Writes the files that a run has changed. -/
def writeBack (before after : FileSystem) : IO Unit := do
  for (names, content) in after.root.filesNotIn before.root do
    let here ← IO.currentDir
    IO.FS.createDirAll (here / pathOfPlace names.dropLast)
    IO.FS.writeBinFile (here / pathOfPlace names) content

end SnippetLint

open SnippetLint in
/-- Runs the program with some arguments and answers its exit code. -/
def main (arguments : List String) : IO UInt32 := do
  match Invocation.ofArguments arguments with
  | .error usage =>
    match usage with
    | .help | .version =>
      IO.print usage.message
      return 0
    | _ =>
      IO.eprint usage.message
      return 2
  | .ok invocation =>
    let world ← findWorld invocation
    let outcome := invocation.run world
    writeBack world.files outcome.files
    for event in invocation.loggedEvents (← IO.getEnv "SNIPCHECK_LOG") outcome do
      IO.eprintln event.line
    if let some notice := outcome.notice then IO.eprintln notice.full
    IO.print (outcome.output.render (← (← IO.getStdout).isTty))
    return outcome.exitCode.toUInt32
