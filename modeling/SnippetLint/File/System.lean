import SnippetLint.File.Tree
import SnippetLint.Path

/-!
# File systems

A tree of files and a working directory in it. A path is followed segment by segment, from the
root if it begins with a slash and from the working directory otherwise. Each segment is looked up
in a directory that has to be there; the double dot leads to the directory around, and out of the
root to the root itself.
-/

namespace SnippetLint

/-- The reasons for which something cannot be done with a file. -/
inductive FileError
  | notFound
  | alreadyExists
  | notDirectory
  | isDirectory
  | notText
  deriving Repr, DecidableEq

/-- What is said about a file with which something cannot be done. -/
def FileError.message : FileError → String
  | notFound => "No such file or directory (os error 2)"
  | alreadyExists => "File exists (os error 17)"
  | notDirectory => "Not a directory (os error 20)"
  | isDirectory => "Is a directory (os error 21)"
  | notText => "stream did not contain valid UTF-8"

/-- A tree of files and the place of the working directory in it. -/
structure FileSystem where
  root : FileTree
  workingDirectory : List String

namespace FileSystem

/-- A place: the names that lead to it from the root. -/
abbrev Place := List String

/-! ## Following a path -/

/-- Goes on from a place along one segment of a path. -/
def step (fs : FileSystem) (place : Place) (segment : List Char) : Except FileError Place :=
  match fs.root.get? place with
  | none => .error .notFound
  | some (.file _) => .error .notDirectory
  | some (.directory entries) =>
    if segment = [] ∨ segment = ['.'] then .ok place
    else if segment = ['.', '.'] then .ok place.dropLast
    else
      let name := String.ofList segment
      if (entries.lookup name).isSome then .ok (place ++ [name]) else .error .notFound

/-- Where a path begins: at the root or at the working directory. -/
def origin (fs : FileSystem) (path : List Char) : Place :=
  if path.head? = some '/' then [] else fs.workingDirectory

/-- The place that a path leads to. -/
def resolve (fs : FileSystem) (path : String) : Except FileError Place :=
  let path := path.toList
  if path.isEmpty then .error .notFound
  else (Path.segments path).foldlM fs.step (fs.origin path)

/-- The file or directory that a path leads to. -/
def find (fs : FileSystem) (path : String) : Except FileError FileTree := do
  let place ← fs.resolve path
  match fs.root.get? place with
  | some t => .ok t
  | none => .error .notFound

/-- Whether a path leads anywhere. -/
def hasPath (fs : FileSystem) (path : String) : Bool := (fs.find path).isOk

/-- Whether a path leads to a directory. -/
def isDirectory (fs : FileSystem) (path : String) : Bool :=
  match fs.find path with
  | .ok t => t.isDirectory
  | .error _ => false

/-- Whether a path leads to a file. -/
def isFile (fs : FileSystem) (path : String) : Bool :=
  match fs.find path with
  | .ok t => !t.isDirectory
  | .error _ => false

/-- The text of the file that a path leads to. -/
def read (fs : FileSystem) (path : String) : Except FileError String := do
  match ← fs.find path with
  | .directory _ => .error .isDirectory
  | .file content =>
    match String.fromUTF8? content with
    | some text => .ok text
    | none => .error .notText

/-! ## Adding files and directories -/

/-- The place of the directory that a path leads into, and the last segment of the path. Slashes at
the end of the path do not count. -/
def lastStep (fs : FileSystem) (path : String) : Except FileError (Place × List Char) := do
  let path := path.toList
  let segments := Path.segments (path.reverse.dropWhile (· == '/')).reverse
  let place ← segments.dropLast.foldlM fs.step (fs.origin path)
  match fs.root.get? place with
  | none => .error .notFound
  | some (.file _) => .error .notDirectory
  | some (.directory _) => .ok (place, segments.getLastD [])

/-- Whether the last segment of a path is no name of its own. -/
def isDots (segment : List Char) : Bool :=
  segment == [] || segment == ['.'] || segment == ['.', '.']

/-- Puts a file or a directory at a place. -/
def put (fs : FileSystem) (place : Place) (t : FileTree) : FileSystem :=
  { fs with root := fs.root.put place t }

/-- Makes a directory in one that is there. -/
def makeDirectory (fs : FileSystem) (path : String) : Except FileError FileSystem := do
  let (place, segment) ← fs.lastStep path
  if isDots segment then throw .alreadyExists
  let new := place ++ [String.ofList segment]
  if (fs.root.get? new).isSome then throw .alreadyExists
  return fs.put new .empty

/-- Writes a text to a file, which is made if it is not there. -/
def write (fs : FileSystem) (path text : String) : Except FileError FileSystem := do
  let (place, segment) ← fs.lastStep path
  if isDots segment || path.toList.getLast? == some '/' then throw .isDirectory
  let target := place ++ [String.ofList segment]
  match fs.root.get? target with
  | some (.directory _) => throw .isDirectory
  | _ => return fs.put target (.file text.toUTF8)

/-- Makes a directory, unless it is there already. -/
def ensureDirectory (fs : FileSystem) (path : String) : Except FileError Unit × FileSystem :=
  match fs.makeDirectory path with
  | .ok fs => (.ok (), fs)
  | .error reason => (if fs.isDirectory path then .ok () else .error reason, fs)

/-- Makes the directory that the first path leads to. Each further path leads to the directory
around the one before, which is made first if it is missing; the empty path leads to the working
directory. What has been made stays even if the rest fails. -/
def makeDirectoriesAlong : List String → FileSystem → Except FileError Unit × FileSystem
  | [], fs => (.error .notFound, fs)
  | path :: parents, fs =>
    if path = "" then (.ok (), fs)
    else match fs.makeDirectory path with
      | .error .notFound =>
        match makeDirectoriesAlong parents fs with
        | (.ok _, fs) => fs.ensureDirectory path
        | failed => failed
      | _ => fs.ensureDirectory path

/-- Makes the directory that a path leads to, with those that are missing on the way. -/
def makeDirectories (fs : FileSystem) (path : String) : Except FileError Unit × FileSystem :=
  makeDirectoriesAlong ((Path.ancestors path.toList).map .ofList) fs

end FileSystem

end SnippetLint
