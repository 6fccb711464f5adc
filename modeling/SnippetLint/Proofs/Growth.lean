import SnippetLint.Proofs.Steps
import SnippetLint.File.System

/-!
# How a tree of files grows

Putting something into a directory changes what is at its place and nowhere else
(`kindAt_put_below`, `kindAt_put_elsewhere`). So making directories only adds directories, however
many of them are made and even if the rest cannot be made (`makeDirectories_grows`); and wherever a
path has led before, it leads there still (`Extends.follow`).
-/

namespace SnippetLint

namespace FileTree

/-- What is at a place of a tree. -/
inductive Kind
  | nothing
  | directory
  | file (content : ByteArray)

/-- What is at a place, apart from what is below it. -/
def kindAt (t : FileTree) (place : List String) : Kind :=
  match t.get? place with
  | none => .nothing
  | some (directory _) => .directory
  | some (file content) => .file content

lemma kindAt_eq_nothing_iff {t : FileTree} {place : List String} :
    t.kindAt place = .nothing ↔ t.get? place = none := by
  rw [kindAt]
  split <;> simp_all

/-- There is a directory at a place if one is found there. -/
lemma kindAt_eq_directory_iff {t : FileTree} {place : List String} :
    t.kindAt place = .directory ↔ ∃ entries, t.get? place = some (directory entries) := by
  rw [kindAt]
  split <;> simp_all

/-- There is a file at a place, with some content, if it is found there. -/
lemma kindAt_eq_file_iff {t : FileTree} {place : List String} {content : ByteArray} :
    t.kindAt place = .file content ↔ t.get? place = some (file content) := by
  rw [kindAt]
  split <;> simp_all

/-- What is at a place is looked for below what the front of the place leads to. -/
lemma kindAt_append (t : FileTree) (front back : List String) :
    t.kindAt (front ++ back) = ((t.get? front).map (·.kindAt back)).getD .nothing := by
  rw [kindAt, get?_append]
  cases t.get? front <;> rfl

lemma kindAt_directory_cons (entries : List (String × FileTree)) (name : String)
    (names : List String) : (directory entries).kindAt (name :: names) =
      ((entries.lookup name).map (·.kindAt names)).getD .nothing := by
  rw [kindAt, get?, child?]
  cases entries.lookup name <;> rfl

/-- Below nothing and below a file there is nothing. -/
lemma kindAt_of_append {t : FileTree} {front back : List String} (hback : back ≠ [])
    (h : t.kindAt (front ++ back) ≠ .nothing) : t.kindAt front = .directory := by
  rw [kindAt_append] at h
  cases hfront : t.get? front with
  | none => simp [hfront] at h
  | some u =>
    cases u with
    | directory entries => exact kindAt_eq_directory_iff.mpr ⟨entries, hfront⟩
    | file content =>
      obtain ⟨name, names, rfl⟩ := List.exists_cons_of_ne_nil hback
      rw [hfront] at h
      exact absurd rfl h

/-- Whatever is on the way to something is there. -/
lemma kindAt_ne_nothing_of_above {t : FileTree} {front place : List String}
    (hfront : front <+: place) (h : t.kindAt place ≠ .nothing) : t.kindAt front ≠ .nothing := by
  obtain ⟨back, rfl⟩ := hfront
  by_cases hback : back = []
  · rwa [hback, List.append_nil] at h
  · simp [kindAt_of_append hback h]

/-! ## Putting something into a directory -/

/-- At its place, and below, there is what has been put. -/
lemma kindAt_put_below {t : FileTree} {place : List String} (h : t.kindAt place = .directory)
    (name : String) (new : FileTree) (names : List String) :
    (t.put (place ++ [name]) new).kindAt (place ++ name :: names) = new.kindAt names := by
  -- Along the place: a directory on the way gets back what has been changed below it.
  induction place generalizing t with
  | nil =>
    obtain ⟨entries, hget⟩ := kindAt_eq_directory_iff.mp h
    obtain rfl : t = directory entries := by simpa [get?] using hget
    simp [put, kindAt_directory_cons]
  | cons first place ih =>
    cases t with
    | file content => cases h
    | directory entries =>
      rw [kindAt_directory_cons] at h
      cases hfirst : entries.lookup first with
      | none => simp [hfirst] at h
      | some child =>
        rw [hfirst] at h
        simp [put, kindAt_directory_cons, hfirst, ih h]

/-- Nowhere else does putting something change what is there. -/
lemma kindAt_put_elsewhere {t : FileTree} {place : List String} (h : t.kindAt place = .directory)
    {name : String} (new : FileTree) {other : List String} (hother : ¬ place ++ [name] <+: other) :
    (t.put (place ++ [name]) new).kindAt other = t.kindAt other := by
  -- Along the place, which `other` leaves somewhere, if only at the last name.
  induction place generalizing t other with
  | nil =>
    obtain ⟨entries, hget⟩ := kindAt_eq_directory_iff.mp h
    obtain rfl : t = directory entries := by simpa [get?] using hget
    cases other with
    | nil => rfl
    | cons key rest =>
      have hkey : key ≠ name := by
        rintro rfl
        exact hother (by simp)
      simp [put, kindAt_directory_cons, hkey]
  | cons first place ih =>
    cases t with
    | file content => cases h
    | directory entries =>
      rw [kindAt_directory_cons] at h
      cases hfirst : entries.lookup first with
      | none => simp [hfirst] at h
      | some child =>
        rw [hfirst] at h
        cases other with
        | nil => rfl
        | cons key rest =>
          by_cases hkey : key = first
          · subst hkey
            rw [List.cons_append, List.cons_prefix_cons] at hother
            have hrest := ih h (fun hbelow => hother ⟨rfl, hbelow⟩)
            simp [put, kindAt_directory_cons, hfirst, hrest]
          · simp [put, kindAt_directory_cons, hkey]

/-- Where neither the old nor the new has anything below it, all other places are as before. -/
lemma kindAt_put_of_ne {t : FileTree} {place : List String} (h : t.kindAt place = .directory)
    {name : String} (hold : t.kindAt (place ++ [name]) ≠ .directory) {new : FileTree}
    (hnew : ∀ names ≠ [], new.kindAt names = .nothing) {other : List String}
    (hother : other ≠ place ++ [name]) :
    (t.put (place ++ [name]) new).kindAt other = t.kindAt other := by
  by_cases hbelow : place ++ [name] <+: other
  · obtain ⟨back, rfl⟩ := hbelow
    have hback : back ≠ [] := by simpa using hother
    have hbefore : t.kindAt (place ++ [name] ++ back) = .nothing := by
      by_contra hthere
      exact hold (kindAt_of_append hback hthere)
    rw [hbefore, List.append_assoc, List.singleton_append, kindAt_put_below h, hnew back hback]
  · exact kindAt_put_elsewhere h new hbelow

lemma kindAt_empty_below (names : List String) (h : names ≠ []) :
    empty.kindAt names = .nothing := by
  obtain ⟨name, rest, rfl⟩ := List.exists_cons_of_ne_nil h
  rfl

/-- There is nothing below a file. -/
lemma kindAt_file_below (content : ByteArray) (names : List String) (h : names ≠ []) :
    (file content).kindAt names = .nothing := by
  obtain ⟨name, rest, rfl⟩ := List.exists_cons_of_ne_nil h
  rfl

end FileTree

namespace FileSystem

open FileTree

variable {fs fs' fs'' : FileSystem}

/-! ## One segment of a path -/

/-- A directory has an entry of a name if there is something at this place. -/
lemma lookup_isSome_iff {place : Place} {entries : List (String × FileTree)}
    (h : fs.root.get? place = some (.directory entries)) (name : String) :
    (entries.lookup name).isSome ↔ fs.root.kindAt (place ++ [name]) ≠ .nothing := by
  rw [kindAt_append, h, Option.map_some, Option.getD_some, kindAt_directory_cons]
  cases entries.lookup name with
  | none => simp
  | some t => cases t <;> simp [FileTree.kindAt, get?]

/-- All that a segment can do: only in a directory, it stays, goes up, or goes on to something that
is there. -/
lemma step_eq_ok_iff {place next : Place} {segment : List Char} :
    fs.step place segment = .ok next ↔ fs.root.kindAt place = .directory ∧
      ((segment = [] ∨ segment = ['.']) ∧ next = place ∨
        segment = ['.', '.'] ∧ next = place.dropLast ∨
        isDots segment = false ∧ next = place ++ [String.ofList segment] ∧
          fs.root.kindAt next ≠ .nothing) := by
  rw [step]
  cases hplace : fs.root.get? place with
  | none => simp [FileTree.kindAt, hplace]
  | some t =>
    cases t with
    | file content => simp [FileTree.kindAt, hplace]
    | directory entries =>
      have hdirectory : fs.root.kindAt place = .directory :=
        kindAt_eq_directory_iff.mpr ⟨entries, hplace⟩
      have hentry := lookup_isSome_iff hplace (String.ofList segment)
      simp only [hdirectory, true_and]
      -- Silent segments come first, then the double dot; all others are names.
      by_cases hsilent : segment = [] ∨ segment = ['.']
      · have hdots : segment ≠ ['.', '.'] := by
          rintro rfl
          simp at hsilent
        have hname : isDots segment = true := by
          obtain rfl | rfl := hsilent <;> rfl
        simp [hsilent, hdots, hname, eq_comm]
      · rw [if_neg hsilent]
        by_cases hdots : segment = ['.', '.']
        · subst hdots
          have hname : isDots ['.', '.'] = true := rfl
          rw [if_pos rfl, hname]
          constructor
          · intro h
            exact .inr (.inl ⟨rfl, (Except.ok.inj h).symm⟩)
          · rintro (⟨hstay, -⟩ | ⟨-, rfl⟩ | ⟨hfalse, -⟩)
            · exact absurd hstay hsilent
            · rfl
            · cases hfalse
        · have hname : isDots segment = false := by
            rw [not_or] at hsilent
            simp [isDots, hsilent, hdots]
          rw [if_neg hdots]
          simp only [hsilent, hdots, hname, false_and, false_or, true_and]
          split
          · next hsome =>
            rw [Except.ok.injEq]
            constructor
            · rintro rfl
              exact ⟨rfl, hentry.mp hsome⟩
            · rintro ⟨rfl, -⟩
              rfl
          · next hnone =>
            constructor
            · intro h
              cases h
            · rintro ⟨rfl, hthere⟩
              exact absurd (hentry.mpr hthere) hnone

/-! ## Adding without taking away -/

/-- Whatever is there stays there, a directory as a directory and a file as a file. -/
structure Extends (fs fs' : FileSystem) : Prop where
  workingDirectory : fs'.workingDirectory = fs.workingDirectory
  directory : ∀ place, fs.root.kindAt place = .directory → fs'.root.kindAt place = .directory
  file : ∀ place content, fs.root.kindAt place = .file content →
    ∃ content', fs'.root.kindAt place = .file content'

namespace Extends

/-- Nothing is added, and nothing is taken away. -/
lemma refl (fs : FileSystem) : Extends fs fs := ⟨rfl, fun _ h => h, fun _ content h => ⟨content, h⟩⟩

/-- What is added later keeps what was added before. -/
lemma trans (h : Extends fs fs') (h' : Extends fs' fs'') : Extends fs fs'' where
  workingDirectory := h'.workingDirectory.trans h.workingDirectory
  directory place hplace := h'.directory place (h.directory place hplace)
  file place content hplace := by
    obtain ⟨content', hplace'⟩ := h.file place content hplace
    exact h'.file place content' hplace'

/-- Something is put where nothing is, or a file in the place of a file. -/
lemma put {place : Place} {name : String} (hplace : fs.root.kindAt place = .directory)
    (hold : fs.root.kindAt (place ++ [name]) ≠ .directory) {new : FileTree}
    (hnew : ∀ names ≠ [], new.kindAt names = .nothing)
    (hfile : fs.root.kindAt (place ++ [name]) = .nothing ∨ ∃ content, new = .file content) :
    Extends fs (fs.put (place ++ [name]) new) := by
  refine ⟨rfl, fun other hother => ?_, fun other content hother => ?_⟩
  · have hne : other ≠ place ++ [name] := by
      rintro rfl
      exact hold hother
    exact (kindAt_put_of_ne hplace hold hnew hne).trans hother
  · by_cases heq : other = place ++ [name]
    · subst heq
      obtain hnothing | ⟨content', rfl⟩ := hfile
      · simp [hnothing] at hother
      · exact ⟨content', kindAt_put_below hplace name _ []⟩
    · exact ⟨content, (kindAt_put_of_ne hplace hold hnew heq).trans hother⟩

/-- What is there stays there, as the same or with another content. -/
lemma ne_nothing (h : Extends fs fs') {place : Place} (hplace : fs.root.kindAt place ≠ .nothing) :
    fs'.root.kindAt place ≠ .nothing := by
  cases hkind : fs.root.kindAt place with
  | nothing => exact absurd hkind hplace
  | directory => simp [h.directory place hkind]
  | file content =>
    obtain ⟨content', hcontent⟩ := h.file place content hkind
    simp [hcontent]

/-- A step along a path leads to where it has led before. -/
lemma step (h : Extends fs fs') {place next : Place} {segment : List Char}
    (hstep : fs.step place segment = .ok next) : fs'.step place segment = .ok next := by
  rw [step_eq_ok_iff] at hstep ⊢
  obtain ⟨hplace, hnext⟩ := hstep
  refine ⟨h.directory place hplace, hnext.imp_right (Or.imp_right ?_)⟩
  rintro ⟨hname, hnext, hthere⟩
  exact ⟨hname, hnext, h.ne_nothing hthere⟩

/-- Segments lead where they have led before. -/
lemma follow (h : Extends fs fs') {place last : Place} {segments : List (List Char)}
    (hfollow : segments.foldlM fs.step place = .ok last) :
    segments.foldlM fs'.step place = .ok last := by
  induction segments generalizing place with
  | nil => exact hfollow
  | cons segment segments ih =>
    rw [List.foldlM_cons] at hfollow ⊢
    obtain ⟨next, hstep, hrest⟩ := bind_eq_ok.mp hfollow
    exact bind_eq_ok.mpr ⟨next, h.step hstep, ih hrest⟩

lemma origin (h : Extends fs fs') (path : List Char) : fs'.origin path = fs.origin path := by
  rw [FileSystem.origin, FileSystem.origin, h.workingDirectory]

end Extends

/-! ## Making directories -/

/-- Nothing is added but directories. -/
structure Grows (fs fs' : FileSystem) : Prop extends Extends fs fs' where
  noFile : ∀ place content, fs'.root.kindAt place = .file content →
    fs.root.kindAt place = .file content

namespace Grows

lemma refl (fs : FileSystem) : Grows fs fs := ⟨.refl fs, fun _ _ h => h⟩

/-- Files stay as they are. -/
lemma kindAt_file_iff (h : Grows fs fs') {place : Place} {content : ByteArray} :
    fs'.root.kindAt place = .file content ↔ fs.root.kindAt place = .file content := by
  refine ⟨h.noFile place content, fun hfile => ?_⟩
  obtain ⟨content', hfile'⟩ := h.file place content hfile
  have hsame := (h.noFile place content' hfile').symm.trans hfile
  rwa [hsame] at hfile'

lemma trans (h : Grows fs fs') (h' : Grows fs' fs'') : Grows fs fs'' :=
  ⟨h.toExtends.trans h'.toExtends,
    fun place content hplace => h.noFile place content (h'.noFile place content hplace)⟩

end Grows

/-- The last segment of a path is looked up in the directory that the others lead to. -/
lemma lastStep_eq_ok {path : String} {place : Place} {segment : List Char}
    (h : fs.lastStep path = .ok (place, segment)) :
    ∃ front, Path.segments (path.toList.reverse.dropWhile (· == '/')).reverse = front ++ [segment] ∧
      front.foldlM fs.step (fs.origin path.toList) = .ok place ∧
      fs.root.kindAt place = .directory := by
  obtain ⟨place', hfollow, h⟩ := bind_eq_ok.mp h
  cases hget : fs.root.get? place' with
  | none => simp [hget] at h
  | some t =>
    cases t with
    | file content => simp [hget] at h
    | directory entries =>
      simp only [hget, Except.ok.injEq, Prod.mk.injEq] at h
      obtain ⟨rfl, rfl⟩ := h
      refine ⟨_, ?_, hfollow, kindAt_eq_directory_iff.mpr ⟨entries, hget⟩⟩
      rw [List.getLastD_eq_getLast?, List.getLast?_eq_some_getLast (Path.segments_ne_nil _),
        Option.getD_some, List.dropLast_append_getLast]

/-- A directory is made in one that is there, in a place where nothing has been. -/
lemma makeDirectory_eq_ok {path : String} (h : fs.makeDirectory path = .ok fs') :
    ∃ place name, fs.root.kindAt place = .directory ∧ fs.root.kindAt (place ++ [name]) = .nothing ∧
      fs' = fs.put (place ++ [name]) .empty := by
  obtain ⟨⟨place, segment⟩, hlast, h⟩ := bind_eq_ok.mp h
  obtain ⟨-, -, -, hplace⟩ := lastStep_eq_ok hlast
  dsimp only at h
  split at h
  · cases h
  · split at h
    · cases h
    · next hfree =>
      refine ⟨place, String.ofList segment, hplace, ?_, (Except.ok.inj h).symm⟩
      rw [kindAt_eq_nothing_iff]
      simpa using hfree

/-- To make a directory adds nothing else. -/
lemma makeDirectory_grows {path : String} (h : fs.makeDirectory path = .ok fs') : Grows fs fs' := by
  obtain ⟨place, name, hplace, hfree, rfl⟩ := makeDirectory_eq_ok h
  have hold : fs.root.kindAt (place ++ [name]) ≠ .directory := by simp [hfree]
  refine ⟨.put hplace hold kindAt_empty_below (.inl hfree), fun other content hother => ?_⟩
  by_cases heq : other = place ++ [name]
  · rw [heq] at hother
    cases (kindAt_put_below hplace name .empty []).symm.trans hother
  · exact (kindAt_put_of_ne hplace hold kindAt_empty_below heq).symm.trans hother

/-- A directory that is there already need not be made. -/
lemma ensureDirectory_grows (path : String) : Grows fs (fs.ensureDirectory path).2 := by
  rw [ensureDirectory]
  cases h : fs.makeDirectory path with
  | ok made => exact makeDirectory_grows h
  | error reason => exact .refl fs

/-- Whether all directories along a path can be made or not, nothing but directories is added. -/
lemma makeDirectoriesAlong_grows (paths : List String) :
    Grows fs (makeDirectoriesAlong paths fs).2 := by
  -- Along the paths: those around a directory are made before it, whether or not all can be made.
  induction paths generalizing fs with
  | nil => exact .refl fs
  | cons path parents ih =>
    rw [makeDirectoriesAlong]
    split
    · exact .refl fs
    · split
      · split
        · next made hmade =>
          have hparents : Grows fs (makeDirectoriesAlong parents fs).2 := ih
          rw [hmade] at hparents
          exact hparents.trans (ensureDirectory_grows path)
        · exact ih
      · exact ensureDirectory_grows path

/-- Making directories adds nothing but directories, whether or not all can be made. -/
theorem makeDirectories_grows (fs : FileSystem) (path : String) :
    Grows fs (fs.makeDirectories path).2 := makeDirectoriesAlong_grows _

end FileSystem

end SnippetLint
