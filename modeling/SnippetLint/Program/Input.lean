import SnippetLint.File.Walk
import SnippetLint.Program.Failure

/-!
# Inputs

What there is to analyze when some paths are given. A file is always taken; a directory stands for
the files that a walk through it comes to, less those that are excluded; and a dash alone stands
for the standard input, which is read once only.
-/

namespace SnippetLint

/-- Something to analyze. -/
structure Input where
  path : String
  /-- A text that names a language, or names none. -/
  language : String
  deriving Repr, DecidableEq

namespace Input

/-- The path that stands for the standard input. -/
def standardPath : String := "-"

/-- Whether an input is the standard input. -/
def isStandard (i : Input) : Bool := i.path == standardPath

/-- The language of a file that is given by its path: the one that its name tells, or else its
extension, which then names no language. -/
def languageOfPath (path : String) : String :=
  match Language.ofPath? path with
  | some language => language.id
  | none => ((Path.extension? path.toList).map String.ofList).getD "text"

/-- The inputs that a path stands for if it is not that of the standard input. -/
def ofPath (files : FileSystem) (language : Option String) (excluded : List Glob.Matcher)
    (path : String) : Except Failure (List Input) :=
  match files.find path with
  | .error reason => .error (.inaccessible path reason)
  | .ok (.file _) => .ok [⟨path, language.getD (languageOfPath path)⟩]
  | .ok (.directory entries) =>
    let sources := (FileTree.directory entries).sources path
    let kept := sources.filter fun source => !excluded.any (·.covers source)
    .ok (kept.map fun source => ⟨source, language.getD (languageOfPath source)⟩)

/-- The inputs that some paths stand for, if the standard input has been taken or has not. -/
def ofPathsAfter (files : FileSystem) (language : Option String) (excluded : List Glob.Matcher)
    (standardTaken : Bool) : List String → Except Failure (List Input)
  | [] => .ok []
  | path :: paths =>
    if path = standardPath then
      if standardTaken then ofPathsAfter files language excluded true paths
      else match language with
        | none => .error .languageNeeded
        | some name => do
          return ⟨path, name⟩ :: (← ofPathsAfter files language excluded true paths)
    else do
      let inputs ← ofPath files language excluded path
      return inputs ++ (← ofPathsAfter files language excluded standardTaken paths)

/-- The inputs that some paths stand for, in the order of the paths. With a language given, all of
them are in that language. -/
def ofPaths (files : FileSystem) (language : Option String) (excluded : List Glob.Matcher)
    (paths : List String) : Except Failure (List Input) :=
  ofPathsAfter files language excluded false paths

end Input

end SnippetLint
