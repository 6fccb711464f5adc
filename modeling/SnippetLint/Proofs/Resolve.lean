import SnippetLint.File.System
import SnippetLint.Proofs.Steps
import SnippetLint.Proofs.Walk

/-!
# Following the path of a file

The paths that a walk through a directory makes up are put together from the path of the directory
and the names on the way, with slashes between them. This file shows that each of them leads to the
file that the walk has come to (`find_joined`), whatever the path of the directory looks like: it
may begin at the root or at the working directory, go up again, and end with a slash or without.
-/

namespace SnippetLint

/-! ## The parts of a path -/

namespace Text

lemma splitAt_separator_cons (separator : Char) (s : List Char) :
    splitAt separator (separator :: s) = [] :: splitAt separator s := by
  rw [splitAt]
  split
  · next h => exact absurd h (splitAt_ne_nil separator s)
  · next h => rw [if_pos rfl, h]

/-- At a separator a text falls into parts on either side. -/
lemma splitAt_append_cons (separator : Char) (s t : List Char) :
    splitAt separator (s ++ separator :: t) = splitAt separator s ++ splitAt separator t := by
  induction s with
  | nil => rw [List.nil_append, splitAt_separator_cons]; rfl
  | cons c s ih =>
    obtain ⟨part, parts, hparts⟩ := List.exists_cons_of_ne_nil (splitAt_ne_nil separator s)
    rw [List.cons_append, splitAt, splitAt, ih, hparts, List.cons_append]
    dsimp only
    by_cases hc : c = separator
    · rw [if_pos hc, if_pos hc, List.cons_append, List.cons_append]
    · rw [if_neg hc, if_neg hc, List.cons_append]

/-- Without a separator, a text is its only part. -/
lemma splitAt_of_notMem {separator : Char} {s : List Char} (h : separator ∉ s) :
    splitAt separator s = [s] := by
  induction s with
  | nil => rfl
  | cons c s ih =>
    rw [List.mem_cons, not_or] at h
    rw [splitAt, ih h.2]
    simp only [if_neg (Ne.symm h.1)]

end Text

open SnippetLint.Path

/-- The segments of a path with one more name are those of the path, less an empty one at the end,
and the name. -/
lemma segments_append (path : List Char) {name : List Char} (hname : '/' ∉ name) :
    (path.getLast? = some '/' ∧ ∃ front, segments path = front ++ [[]] ∧
      segments (append path name) = front ++ [name]) ∨
    segments (append path name) = segments path ++ [name] := by
  by_cases h : path.getLast? = some '/'
  · obtain ⟨front, rfl⟩ := List.getLast?_eq_some_iff.mp h
    refine .inl ⟨h, segments front, ?_, ?_⟩
    · exact Text.splitAt_append_cons '/' front []
    · rw [append, if_pos h, List.append_assoc, List.singleton_append, segments,
        Text.splitAt_append_cons, Text.splitAt_of_notMem hname]
      rfl
  · right
    rw [append, if_neg h, segments, Text.splitAt_append_cons, Text.splitAt_of_notMem hname]
    rfl

/-- The path of what some names lead to from the directory at a path. -/
def joined (path : String) (names : List String) : String :=
  String.ofList (names.foldl (fun path name => append path name.toList) path.toList)

@[simp] lemma joined_nil (path : String) : joined path [] = path := by simp [joined]

/-- A path goes on through one directory after another. -/
lemma joined_cons (path name : String) (names : List String) :
    joined path (name :: names) = joined (joined path [name]) names := by
  simp [joined]

lemma toList_joined_singleton (path name : String) :
    (joined path [name]).toList = append path.toList name.toList := by
  simp [joined]

namespace FileSystem

open FileTree

variable {fs : FileSystem}

/-- A path leads to what stands at the place that it resolves to. -/
lemma find_eq_ok_iff {path : String} {t : FileTree} :
    fs.find path = .ok t ↔ ∃ place, fs.resolve path = .ok place ∧ fs.root.get? place = some t := by
  rw [find]
  cases hresolve : fs.resolve path with
  | error reason => simp [bind, Except.bind]
  | ok place =>
    simp only [bind, Except.bind, Except.ok.injEq, exists_eq_left']
    cases fs.root.get? place <;> simp

/-- What a path leads to is a directory tree again. -/
lemma wellFormed_of_find (h : fs.root.WellFormed) {path : String} {t : FileTree}
    (hfind : fs.find path = .ok t) : t.WellFormed := by
  obtain ⟨place, -, hget⟩ := find_eq_ok_iff.mp hfind
  exact (h.of_get? hget).1

/-! ## From a directory to its entries -/

/-- The name of an entry leads from the directory to the entry. -/
lemma step_name {place : Place} {entries : List (String × FileTree)} {name : String}
    {t : FileTree} (hplace : fs.root.get? place = some (.directory entries))
    (hname : IsName name) (hentry : entries.lookup name = some t) :
    fs.step place name.toList = .ok (place ++ [name]) := by
  have hempty : name.toList ≠ [] := by simpa using hname.nonempty
  have hdot : name.toList ≠ ['.'] := fun h => hname.noDot (String.toList_injective h)
  have hdots : name.toList ≠ ['.', '.'] := fun h => hname.noDots (String.toList_injective h)
  rw [step, hplace]
  simp [hempty, hdot, hdots, hentry]

/-- A slash at the end of a path leads nowhere else. -/
lemma step_nil {place place' : Place} (h : fs.step place [] = .ok place') : place' = place := by
  rw [step] at h
  split at h
  · cases h
  · cases h
  · simpa [eq_comm] using h

/-- A path is followed from where it begins, unless it is empty. -/
lemma resolve_eq_ok_iff {path : String} {place : Place} :
    fs.resolve path = .ok place ↔ path.toList ≠ [] ∧
      (segments path.toList).foldlM fs.step (fs.origin path.toList) = .ok place := by
  rw [resolve]
  cases path.toList <;> simp

/-- A path begins in the same place if a name is put at its end. -/
lemma origin_append {path : List Char} (hpath : path ≠ []) (name : List Char) :
    fs.origin (append path name) = fs.origin path := by
  obtain ⟨c, path, rfl⟩ := List.exists_cons_of_ne_nil hpath
  rw [origin, origin, append]
  split <;> rfl

lemma append_ne_nil {path : List Char} (hpath : path ≠ []) (name : List Char) :
    append path name ≠ [] := by
  rw [append]
  split <;> simp [hpath]

/-- The path of a directory with the name of an entry leads to the entry. -/
lemma find_joined_singleton {path name : String} {entries : List (String × FileTree)}
    {t : FileTree} (hfind : fs.find path = .ok (.directory entries)) (hname : IsName name)
    (hentry : entries.lookup name = some t) : fs.find (joined path [name]) = .ok t := by
  obtain ⟨place, hresolve, hplace⟩ := find_eq_ok_iff.mp hfind
  obtain ⟨hpath, hfollow⟩ := resolve_eq_ok_iff.mp hresolve
  have hstep := step_name hplace hname hentry
  refine find_eq_ok_iff.mpr ⟨place ++ [name], resolve_eq_ok_iff.mpr ?_, ?_⟩
  · rw [toList_joined_singleton, origin_append hpath]
    refine ⟨append_ne_nil hpath _, ?_⟩
    obtain ⟨-, front, hfront, happend⟩ | happend := segments_append path.toList hname.noSlash
    -- The empty segment at the end goes nowhere, so the name is looked up in the same place.
    · rw [hfront, List.foldlM_append] at hfollow
      obtain ⟨before, hbefore, hlast⟩ := bind_eq_ok.mp hfollow
      rw [List.foldlM_cons] at hlast
      obtain ⟨place', hnil, hplace'⟩ := bind_eq_ok.mp hlast
      obtain rfl : place' = place := by simpa [pure, Except.pure] using hplace'
      obtain rfl := step_nil hnil
      rw [happend, List.foldlM_append, hbefore]
      exact bind_eq_ok.mpr ⟨_, rfl, bind_eq_ok.mpr ⟨_, hstep, rfl⟩⟩
    · rw [happend, List.foldlM_append, hfollow]
      exact bind_eq_ok.mpr ⟨_, rfl, bind_eq_ok.mpr ⟨_, hstep, rfl⟩⟩
  · rw [get?_append, hplace]
    simp [get?, child?, hentry]

/-- The path that a walk makes up for a file leads to the file. -/
theorem find_joined {path : String} {t u : FileTree} {names : List String} (h : t.WellFormed)
    (hfind : fs.find path = .ok t) (hget : t.get? names = some u) :
    fs.find (joined path names) = .ok u := by
  -- Along the names: each leads from one directory to the next.
  induction names generalizing path t with
  | nil =>
    obtain rfl : t = u := by simpa [get?] using hget
    rwa [joined_nil]
  | cons name names ih =>
    obtain ⟨child, hchild, hrest⟩ := Option.bind_eq_some_iff.mp hget
    cases t with
    | file content => cases hchild
    | directory entries =>
      obtain ⟨hname, hbelow⟩ := h.of_lookup hchild
      rw [joined_cons]
      exact ih hbelow (find_joined_singleton hfind hname hchild) hrest

end FileSystem

end SnippetLint
