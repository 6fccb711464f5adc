import SnippetLint.File.Tree
import SnippetLint.Language

/-!
# Walks through directories

Which files below a directory are looked at: those of a known language, in the order of their
names, but not those in hidden directories and in directories for things that were not written by
hand. The directory where a walk begins is looked at whatever its name is, and so are hidden files.
-/

namespace SnippetLint

namespace FileTree

/-- Directories that hold things that were not written by hand. -/
def skippedNames : List String := ["node_modules", "vendor", "target", "dist", "build"]

/-- Whether a walk passes over the directories with a name. -/
def isSkipped (name : String) : Bool :=
  name.toList.head? == some '.' || skippedNames.contains name

mutual

/-- The files that a walk through a tree comes to, each with the names that lead to it. The entries
of a directory are taken in the order of their names. -/
def walk : FileTree → List (List String)
  | file _ => [[]]
  | directory entries =>
    ((walkEntries entries).mergeSort fun a b => decide (a.1 ≤ b.1)).flatMap fun (name, found) =>
      found.map (name :: ·)

/-- What a walk comes to in each entry of a directory. -/
def walkEntries : List (String × FileTree) → List (String × List (List String))
  | [] => []
  | (name, t) :: rest =>
    (name, if t.isDirectory && isSkipped name then [] else walk t) :: walkEntries rest

end

/-- The paths of the files of known languages that a walk through the directory at `path` comes
to. -/
def sources (path : String) (t : FileTree) : List String :=
  let paths := t.walk.map fun names =>
    String.ofList (names.foldl (fun path name => Path.append path name.toList) path.toList)
  paths.filter fun path => (Language.ofPath? path).isSome

end FileTree

end SnippetLint
