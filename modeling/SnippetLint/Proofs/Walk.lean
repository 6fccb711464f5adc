import SnippetLint.File.Walk
import SnippetLint.Proofs.NameOrder

/-!
# What a walk comes to

A directory tree has one entry for each name, and its names can be told from the marks of a path
(`FileTree.WellFormed`). In such a tree a walk comes to exactly the files that are not below a
directory that it passes over (`mem_walk_iff`), and to one after another in the order of their
paths, names being compared by their bytes (`walk_pairwise`). So it comes to each file once.
-/

namespace SnippetLint

namespace FileTree

/-! ## Directory trees -/

/-- A name that an entry of a directory can have. -/
structure IsName (name : String) : Prop where
  nonempty : name ≠ ""
  noSlash : '/' ∉ name.toList
  noDot : name ≠ "."
  noDots : name ≠ ".."

instance (name : String) : Decidable (IsName name) :=
  decidable_of_iff (name ≠ "" ∧ '/' ∉ name.toList ∧ name ≠ "." ∧ name ≠ "..")
    ⟨fun ⟨nonempty, noSlash, noDot, noDots⟩ => ⟨nonempty, noSlash, noDot, noDots⟩,
      fun ⟨nonempty, noSlash, noDot, noDots⟩ => ⟨nonempty, noSlash, noDot, noDots⟩⟩

/-- In every directory of a tree, each name is the name of one entry only. -/
inductive WellFormed : FileTree → Prop
  | file (content : ByteArray) : WellFormed (file content)
  | directory {entries : List (String × FileTree)} (nodup : (entries.map Prod.fst).Nodup)
      (named : ∀ entry ∈ entries, IsName entry.1) (below : ∀ entry ∈ entries, WellFormed entry.2) :
      WellFormed (directory entries)

/-- An entry is found under its name. -/
lemma lookup_eq_some_iff {entries : List (String × FileTree)}
    (hnodup : (entries.map Prod.fst).Nodup) {name : String} {t : FileTree} :
    entries.lookup name = some t ↔ (name, t) ∈ entries := by
  induction entries with
  | nil => simp
  | cons entry entries ih =>
    obtain ⟨other, u⟩ := entry
    rw [List.map_cons, List.nodup_cons] at hnodup
    obtain ⟨hother, hrest⟩ := hnodup
    rw [List.lookup_cons, List.mem_cons, Prod.mk.injEq]
    by_cases h : name = other
    · subst h
      -- No later entry has the same name.
      have hlater : (name, t) ∉ entries := by
        intro hmem
        exact hother (List.mem_map.mpr ⟨(name, t), hmem, rfl⟩)
      simp [hlater, eq_comm]
    · have hne : (name == other) = false := by simpa using h
      simp [hne, h, ih hrest]

/-- What stands in a directory that is well formed has a name and is well formed. -/
lemma WellFormed.of_lookup {entries : List (String × FileTree)} (h : WellFormed (.directory entries))
    {name : String} {t : FileTree} (hlookup : entries.lookup name = some t) :
    IsName name ∧ t.WellFormed := by
  cases h with
  | directory nodup named below =>
    have hmem := (lookup_eq_some_iff nodup).mp hlookup
    exact ⟨named _ hmem, below _ hmem⟩

/-- What is in a directory tree is a directory tree, and its place has proper names only. -/
lemma WellFormed.of_get? {t u : FileTree} (h : t.WellFormed) {names : List String}
    (hget : t.get? names = some u) : u.WellFormed ∧ ∀ name ∈ names, IsName name := by
  induction names generalizing t with
  | nil =>
    obtain rfl : t = u := by simpa [get?] using hget
    exact ⟨h, by simp⟩
  | cons name names ih =>
    obtain ⟨child, hchild, hrest⟩ := Option.bind_eq_some_iff.mp hget
    cases t with
    | file content => cases hchild
    | directory entries =>
      obtain ⟨hname, hbelow⟩ := h.of_lookup hchild
      obtain ⟨hu, hnames⟩ := ih hbelow hrest
      exact ⟨hu, List.forall_mem_cons.mpr ⟨hname, hnames⟩⟩

/-! ## The files that a walk comes to -/

/-- Some names lead to a file of a tree, past no directory that is passed over. -/
structure Reaches (t : FileTree) (names : List String) : Prop where
  file : ∃ content, t.get? names = some (.file content)
  open_way : ∀ directory ∈ names.dropLast, isSkipped directory = false

lemma reaches_file {content : ByteArray} {names : List String} :
    (file content).Reaches names ↔ names = [] := by
  constructor
  · intro h
    obtain ⟨⟨_, hget⟩, -⟩ := h
    cases names with
    | nil => rfl
    | cons name names => cases hget
  · rintro rfl
    exact ⟨⟨content, rfl⟩, by simp⟩

/-- A file is below a directory if it is below one of its entries. Only if that is a directory does
its name count. -/
lemma reaches_directory {entries : List (String × FileTree)} {names : List String} :
    (directory entries).Reaches names ↔ ∃ name rest t, names = name :: rest ∧
      entries.lookup name = some t ∧ (t.isDirectory && isSkipped name) = false ∧ t.Reaches rest := by
  constructor
  · intro h
    obtain ⟨⟨content, hget⟩, hway⟩ := h
    cases names with
    | nil => cases hget
    | cons name rest =>
      obtain ⟨t, hchild, hrest⟩ := Option.bind_eq_some_iff.mp hget
      refine ⟨name, rest, t, rfl, hchild, ?_, ⟨content, hrest⟩, ?_⟩
      · cases t with
        | file => rfl
        | directory =>
          -- The names go on below this directory, so its own name is on the way.
          cases rest with
          | nil => cases hrest
          | cons => simpa [isDirectory] using hway name (by simp)
      · intro directory hdirectory
        cases rest with
        | nil => simp at hdirectory
        | cons => exact hway directory (by simpa using Or.inr hdirectory)
  · intro h
    obtain ⟨name, rest, t, rfl, hchild, hskip, ⟨content, hrest⟩, hway⟩ := h
    refine ⟨⟨content, Option.bind_eq_some_iff.mpr ⟨t, hchild, hrest⟩⟩, ?_⟩
    intro directory hdirectory
    cases rest with
    | nil => simp at hdirectory
    | cons =>
      rw [List.dropLast_cons_cons, List.mem_cons] at hdirectory
      obtain rfl | hdirectory := hdirectory
      · cases t with
        | file => cases hrest
        | directory => simpa [isDirectory] using hskip
      · exact hway directory hdirectory

/-- What a walk comes to in an entry, with the name of the entry. -/
def found (entry : String × FileTree) : String × List (List String) :=
  (entry.1, if entry.2.isDirectory && isSkipped entry.1 then [] else walk entry.2)

lemma walkEntries_eq_map (entries : List (String × FileTree)) :
    walkEntries entries = entries.map found := by
  induction entries with
  | nil => rfl
  | cons entry entries ih => rw [walkEntries, ih, List.map_cons, found]

/-- What a walk comes to in the entries of a directory, in the order of their names. -/
def inOrder (entries : List (String × FileTree)) : List (String × List (List String)) :=
  (entries.map found).mergeSort fun a b => decide (a.1 ≤ b.1)

/-- A walk through a directory goes through its entries in their order. -/
lemma walk_directory (entries : List (String × FileTree)) :
    walk (directory entries) =
      (inOrder entries).flatMap fun (name, found) => found.map (name :: ·) := by
  rw [walk, walkEntries_eq_map]
  rfl

/-- What is found in a directory is found in one of its entries that is not skipped. -/
lemma mem_walk_directory {entries : List (String × FileTree)} {names : List String} :
    names ∈ walk (directory entries) ↔ ∃ name rest t, names = name :: rest ∧
      (name, t) ∈ entries ∧ (t.isDirectory && isSkipped name) = false ∧ rest ∈ walk t := by
  rw [walk_directory, List.mem_flatMap]
  constructor
  · intro h
    obtain ⟨_, hmem, hnames⟩ := h
    rw [inOrder, List.mem_mergeSort, List.mem_map] at hmem
    obtain ⟨⟨name, t⟩, hentry, rfl⟩ := hmem
    obtain ⟨rest, hrest, rfl⟩ := List.mem_map.mp hnames
    cases hskip : t.isDirectory && isSkipped name with
    | true => simp [hskip] at hrest
    | false => exact ⟨name, rest, t, rfl, hentry, hskip, by simpa [found, hskip] using hrest⟩
  · intro h
    obtain ⟨name, rest, t, rfl, hentry, hskip, hrest⟩ := h
    refine ⟨found (name, t), ?_, List.mem_map.mpr ⟨rest, by simpa [found, hskip] using hrest, rfl⟩⟩
    rw [inOrder, List.mem_mergeSort]
    exact List.mem_map_of_mem hentry

/-- A walk comes to the files of a tree that are not below a directory that it passes over. -/
theorem mem_walk_iff {t : FileTree} (h : t.WellFormed) (names : List String) :
    names ∈ t.walk ↔ t.Reaches names := by
  -- Along the tree: the first name leads to an entry of the directory, the others on from there.
  induction h generalizing names with
  | file content => simp [walk, reaches_file]
  | directory nodup named below ih =>
    rw [mem_walk_directory, reaches_directory]
    constructor
    · intro hwalk
      obtain ⟨name, rest, t, rfl, hentry, hskip, hrest⟩ := hwalk
      exact ⟨name, rest, t, rfl, (lookup_eq_some_iff nodup).mpr hentry, hskip,
        (ih _ hentry rest).mp hrest⟩
    · intro hreach
      obtain ⟨name, rest, t, rfl, hlookup, hskip, hrest⟩ := hreach
      have hentry := (lookup_eq_some_iff nodup).mp hlookup
      exact ⟨name, rest, t, rfl, hentry, hskip, (ih _ hentry rest).mpr hrest⟩

/-! ## The order of a walk -/

/-- A relative path comes before another one: at the first name in which they differ, it has the
name that comes first in the order of bytes. -/
def Precedes (names names' : List String) : Prop := names.map Text.bytes < names'.map Text.bytes

lemma Precedes.cons {names names' : List String} (h : Precedes names names') (name : String) :
    Precedes (name :: names) (name :: names') := List.Lex.cons h

/-- Names that differ decide the order, whatever stands below them. -/
lemma precedes_of_lt {name name' : String} (h : name < name') (names names' : List String) :
    Precedes (name :: names) (name' :: names') := List.Lex.rel (Text.bytes_lt_bytes h)

/-- The entries of a directory come in the order of their names, each after all smaller ones. -/
lemma inOrder_pairwise {entries : List (String × FileTree)}
    (hnodup : (entries.map Prod.fst).Nodup) : (inOrder entries).Pairwise (·.1 < ·.1) := by
  -- Sorting only gives that no name comes before a smaller one, but the names differ.
  have hle : (inOrder entries).Pairwise fun a b => decide (a.1 ≤ b.1) = true := by
    refine List.pairwise_mergeSort ?_ ?_ _
    · intro a b c hab hbc
      rw [decide_eq_true_iff] at hab hbc ⊢
      exact String.le_trans hab hbc
    · intro a b
      rw [Bool.or_eq_true, decide_eq_true_iff, decide_eq_true_iff]
      exact String.le_total a.1 b.1
  have hne : (inOrder entries).Pairwise fun a b => a.1 ≠ b.1 := by
    have hnames : ((entries.map found).map Prod.fst).Nodup := by
      rw [List.map_map]
      exact hnodup
    have hperm := List.mergeSort_perm (entries.map found) fun a b => decide (a.1 ≤ b.1)
    exact List.pairwise_map.mp ((hperm.map Prod.fst).nodup_iff.mpr hnames)
  refine (hle.and hne).imp ?_
  intro a b hab
  obtain ⟨hab, hdiff⟩ := hab
  by_contra hlt
  exact hdiff (String.le_antisymm (of_decide_eq_true hab) (String.not_lt.mp hlt))

/-- A walk comes to one file after another in the order of their paths. -/
theorem walk_pairwise {t : FileTree} (h : t.WellFormed) : t.walk.Pairwise Precedes := by
  induction h with
  | file content => simp [walk]
  | @directory entries nodup named below ih =>
    rw [walk_directory, List.pairwise_flatMap]
    constructor
    · intro entry hmem
      rw [inOrder, List.mem_mergeSort, List.mem_map] at hmem
      obtain ⟨⟨name, t⟩, hentry, rfl⟩ := hmem
      have hbelow : (found (name, t)).2.Pairwise Precedes := by
        rw [found]
        split
        · exact List.Pairwise.nil
        · exact ih _ hentry
      exact List.pairwise_map.mpr (hbelow.imp fun hlt => hlt.cons name)
    -- Files of different entries are in the order of the entries.
    · refine (inOrder_pairwise nodup).imp ?_
      intro a b hab x hx y hy
      obtain ⟨rest, -, rfl⟩ := List.mem_map.mp hx
      obtain ⟨rest', -, rfl⟩ := List.mem_map.mp hy
      exact precedes_of_lt hab rest rest'

end FileTree

end SnippetLint
