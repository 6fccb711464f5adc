import SnippetLint.Text.Basic

/-!
# Paths

A path is a text whose components are separated by slashes. Empty components and single dots
after the first component do not count.
-/

namespace SnippetLint.Path

/-- The parts of a path between its slashes. -/
def segments (path : List Char) : List (List Char) := Text.splitAt '/' path

/-- A path has a part at least. -/
theorem segments_ne_nil (path : List Char) : segments path ≠ [] := Text.splitAt_ne_nil '/' path

/-- The components of a path that count: names, and the double dots that lead upwards. -/
def components (path : List Char) : List (List Char) :=
  (segments path).filter fun s => s != [] && s != ['.']

/-- The name of the file that a path leads to. A path that ends with a double dot, or has no
component at all, leads to no named file. -/
def fileName? (path : List Char) : Option (List Char) :=
  (components path).getLast?.filter (· != ['.', '.'])

/-- What follows the last dot of a file name. A dot at its front makes a hidden file, no
extension. -/
def nameExtension? (name : List Char) : Option (List Char) :=
  let reversed := name.reverse
  let ext := reversed.takeWhile (· != '.')
  if ext.length + 1 < name.length then some ext.reverse else none

/-- The extension of the file that a path leads to. -/
def extension? (path : List Char) : Option (List Char) := (fileName? path).bind nameExtension?

/-- Whether a segment goes nowhere. -/
def isSilent (segment : List Char) : Bool := segment == [] || segment == ['.']

/-- Segments with slashes between them. -/
def ofSegments : List (List Char) → List Char
  | [] => []
  | [segment] => segment
  | segment :: segments => segment ++ '/' :: ofSegments segments

/-- A path without its last component. The root has none. -/
def parent? (path : List Char) : Option (List Char) :=
  match segments path with
  | [] => none
  | first :: rest =>
    match rest.reverse.dropWhile isSilent with
    | _ :: before =>
      let kept := (before.dropWhile isSilent).reverse
      some (if first.isEmpty && kept.isEmpty then ['/'] else ofSegments (first :: kept))
    | [] => if first.isEmpty then none else some []

/-- A path, its parent, and so on, `count` paths at most. -/
def ancestorsUpTo (path : List Char) : Nat → List (List Char)
  | 0 => []
  | count + 1 => path :: ((parent? path).elim [] (ancestorsUpTo · count))

/-- A path, its parent, and so on. Every path has more segments than its parent, or is one segment
that has no parent or the empty one. -/
def ancestors (path : List Char) : List (List Char) :=
  ancestorsUpTo path ((segments path).length + 1)

/-- A path with a further component. -/
def append (path component : List Char) : List Char :=
  if path.getLast? = some '/' then path ++ component else path ++ '/' :: component

end SnippetLint.Path
