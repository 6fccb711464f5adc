/-!
# Trees of files

The files below a directory. A tree has no links, so every file in it is reached by the names on
the way to it and by nothing else.
-/

namespace SnippetLint

/-- A file, or a directory with its named entries. -/
inductive FileTree
  | file (content : ByteArray)
  | directory (entries : List (String × FileTree))

namespace FileTree

/-- A directory without entries. -/
def empty : FileTree := directory []

/-- Whether a tree is a directory. -/
def isDirectory : FileTree → Bool
  | directory _ => true
  | file _ => false

/-- The entry of a directory with a name. -/
def child? (name : String) : FileTree → Option FileTree
  | directory entries => entries.lookup name
  | file _ => none

/-- The tree that a list of names leads to. -/
def get? (t : FileTree) : List String → Option FileTree
  | [] => some t
  | name :: names => (t.child? name).bind (get? · names)

/-- Sets an entry in a list of entries. -/
def setEntry (name : String) (t : FileTree) :
    List (String × FileTree) → List (String × FileTree)
  | [] => [(name, t)]
  | (other, u) :: rest =>
    if other = name then (name, t) :: rest else (other, u) :: setEntry name t rest

/-- Puts a tree at the place that a list of names leads to, with the directories that are missing
on the way. Below a file nothing can be put. -/
def put (t : FileTree) (names : List String) (new : FileTree) : FileTree :=
  match names, t with
  | [], _ => new
  | name :: names, directory entries =>
    directory (setEntry name (put ((entries.lookup name).getD empty) names new) entries)
  | _ :: _, file content => file content

/-! ## Looking up what has been put -/

/-- An entry that has been set is found. -/
@[simp]
theorem lookup_setEntry_self (name : String) (t : FileTree) (entries : List (String × FileTree)) :
    (setEntry name t entries).lookup name = some t := by
  induction entries with
  | nil => simp [setEntry]
  | cons entry rest ih =>
    obtain ⟨other, u⟩ := entry
    by_cases h : other = name
    · simp [setEntry, h]
    · have hb : (name == other) = false := by simpa using fun e : name = other => h e.symm
      simp [setEntry, h, List.lookup_cons, hb, ih]

/-- The other entries stay. -/
@[simp]
theorem lookup_setEntry_of_ne {name key : String} (h : key ≠ name) (t : FileTree)
    (entries : List (String × FileTree)) :
    (setEntry name t entries).lookup key = entries.lookup key := by
  have hb : (key == name) = false := by simpa using h
  induction entries with
  | nil => simp [setEntry, List.lookup_cons, hb]
  | cons entry rest ih =>
    obtain ⟨other, u⟩ := entry
    by_cases ho : other = name
    · subst ho
      simp [setEntry, List.lookup_cons, hb]
    · simp only [setEntry, if_neg ho, List.lookup_cons]
      split <;> simp_all

/-- Names are followed one after another. -/
theorem get?_append (t : FileTree) (front back : List String) :
    t.get? (front ++ back) = (t.get? front).bind (·.get? back) := by
  induction front generalizing t with
  | nil => simp [get?]
  | cons name names ih =>
    simp only [List.cons_append, get?]
    cases t.child? name with
    | none => rfl
    | some child => simp [ih]

/-! ## Files -/

mutual

/-- All files of a tree, each with the names that lead to it. -/
def files : FileTree → List (List String × ByteArray)
  | file content => [([], content)]
  | directory entries => filesOfEntries entries

/-- The files of the entries of a directory. -/
def filesOfEntries : List (String × FileTree) → List (List String × ByteArray)
  | [] => []
  | (name, t) :: rest =>
    (files t).map (fun (names, content) => (name :: names, content)) ++ filesOfEntries rest

end

/-- The files of a tree that another tree does not have, or has with another content. -/
def filesNotIn (new old : FileTree) : List (List String × ByteArray) :=
  new.files.filter fun (names, content) =>
    match old.get? names with
    | some (file before) => before != content
    | _ => true

end FileTree

end SnippetLint
