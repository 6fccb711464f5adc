import SnippetLint.Program.Input
import SnippetLint.Proofs.Resolve

/-!
# What there is to analyze

Which inputs some paths stand for, said without going through any directory. `Contributes` is what
one path adds: the standard input counts where it is named first, a file is taken whatever its name
is, and a directory stands for the files that are `Wanted` in it, in the order of their relative
paths. `Collects` puts these together in the order of the paths.

If every path is there, and a language is given for the standard input if that is wanted, then the
inputs are these and no others; otherwise the first path that is refused is what is reported
(`ofPaths_exact`).
-/

namespace SnippetLint.Input

open FileTree

/-! ## The files of a directory -/

/-- A file in the directory at a path is looked for: its path tells a language and is not excluded,
and no directory on the way to it is hidden or holds things that were not written by hand. Neither
the directory at the path itself nor the name of the file is asked whether it is hidden. -/
structure Wanted (excluded : List Glob.Matcher) (path : String) (t : FileTree)
    (names : List String) : Prop where
  file : ∃ content, t.get? names = some (.file content)
  known : (Language.ofPath? (joined path names)).isSome
  way : ∀ directory ∈ names.dropLast, directory.toList.head? ≠ some '.' ∧
    directory ∉ ["node_modules", "vendor", "target", "dist", "build"]
  included : ∀ glob ∈ excluded, glob.covers (joined path names) = false

/-- The names of directories that are walked into. -/
lemma isSkipped_eq_false_iff {name : String} : isSkipped name = false ↔
    name.toList.head? ≠ some '.' ∧
      name ∉ ["node_modules", "vendor", "target", "dist", "build"] := by
  rw [isSkipped, Bool.or_eq_false_iff, beq_eq_false_iff_ne, skippedNames]
  simp

/-- The names of the files in a directory that are looked for, in the order of a walk. -/
def selection (excluded : List Glob.Matcher) (path : String) (t : FileTree) : List (List String) :=
  t.walk.filter fun names => (Language.ofPath? (joined path names)).isSome &&
    !excluded.any (·.covers (joined path names))

/-- A file is selected if it is wanted: a known language, not excluded, and no skipped directory on
the way. -/
lemma mem_selection_iff {excluded : List Glob.Matcher} {path : String} {t : FileTree}
    (h : t.WellFormed) (names : List String) :
    names ∈ selection excluded path t ↔ Wanted excluded path t names := by
  rw [selection, List.mem_filter, mem_walk_iff h, Bool.and_eq_true, Bool.not_eq_true',
    List.any_eq_false]
  constructor
  · intro hnames
    obtain ⟨⟨hfile, hway⟩, hknown, hincluded⟩ := hnames
    refine ⟨hfile, hknown, ?_, fun glob hglob => by simpa using hincluded glob hglob⟩
    exact fun directory hdirectory => isSkipped_eq_false_iff.mp (hway directory hdirectory)
  · intro hwanted
    obtain ⟨hfile, hknown, hway, hincluded⟩ := hwanted
    refine ⟨⟨hfile, ?_⟩, hknown, fun glob hglob => by simpa using hincluded glob hglob⟩
    exact fun directory hdirectory => isSkipped_eq_false_iff.mpr (hway directory hdirectory)

/-- The selected files are in the order of their names. -/
lemma selection_pairwise (excluded : List Glob.Matcher) (path : String) {t : FileTree}
    (h : t.WellFormed) : (selection excluded path t).Pairwise Precedes :=
  (walk_pairwise h).filter _

/-- The paths that are kept are those of the selected files. -/
lemma filter_sources (excluded : List Glob.Matcher) (path : String) (t : FileTree) :
    (t.sources path).filter (fun source => !excluded.any (·.covers source)) =
      (selection excluded path t).map (joined path) := by
  have hsources : t.sources path =
      (t.walk.map (joined path)).filter fun source => (Language.ofPath? source).isSome := rfl
  rw [hsources, List.filter_filter, List.filter_map, selection]
  congr 2
  funext names
  exact Bool.and_comm _ _

/-! ## What paths add -/

section

variable (files : FileSystem) (language : Option String) (excluded : List Glob.Matcher)

/-- What one path adds to the inputs, if some paths came earlier. -/
inductive Contributes (earlier : List String) : String → List Input → Prop
  | standard {name : String} (first : standardPath ∉ earlier) (given : language = some name) :
      Contributes earlier standardPath [⟨standardPath, name⟩]
  | standardAgain (again : standardPath ∈ earlier) : Contributes earlier standardPath []
  | file {path : String} {content : ByteArray} (other : path ≠ standardPath)
      (leads : files.find path = .ok (.file content)) :
      Contributes earlier path [⟨path, language.getD (languageOfPath path)⟩]
  | directory {path : String} {entries : List (String × FileTree)} {selected : List (List String)}
      (other : path ≠ standardPath) (leads : files.find path = .ok (.directory entries))
      (exact : ∀ names, names ∈ selected ↔ Wanted excluded path (.directory entries) names)
      (ascending : selected.Pairwise Precedes) :
      Contributes earlier path (selected.map fun names =>
        ⟨joined path names, language.getD (languageOfPath (joined path names))⟩)

/-- The inputs that some paths add one after another. -/
inductive Collects : List String → List String → List Input → Prop
  | nil (earlier : List String) : Collects earlier [] []
  | cons {earlier : List String} {path : String} {paths : List String} {inputs rest : List Input}
      (head : Contributes files language excluded earlier path inputs)
      (tail : Collects (earlier ++ [path]) paths rest) :
      Collects earlier (path :: paths) (inputs ++ rest)

/-- A path for which everything is given up. -/
inductive Refused : String → Failure → Prop
  | standard (missing : language = none) : Refused standardPath .languageNeeded
  | other {path : String} {reason : FileError} (other : path ≠ standardPath)
      (lost : files.find path = .error reason) : Refused path (.inaccessible path reason)

/-- All paths lead somewhere, and the standard input is wanted only in a language that is given. -/
def Available (paths : List String) : Prop :=
  (∀ path ∈ paths, path ≠ standardPath → files.hasPath path = true) ∧
    (standardPath ∈ paths → language.isSome = true)

/-- What is found for some paths, if others came earlier: the inputs that they add, or the reason
for which the first of them that is refused is refused. -/
def Answers (earlier paths : List String) : Except Failure (List Input) → Prop
  | .ok inputs => Collects files language excluded earlier paths inputs
  | .error failure => ∃ front path back, paths = front ++ path :: back ∧
      (∀ p ∈ front, ∀ f, ¬ Refused files language p f) ∧ Refused files language path failure

end

variable {files : FileSystem} {language : Option String} {excluded : List Glob.Matcher}

/-- The inputs are available if there is no path for which they are refused. -/
lemma available_iff (paths : List String) :
    Available files language paths ↔
      ∀ path ∈ paths, ∀ failure, ¬ Refused files language path failure := by
  constructor
  · intro h path hpath failure hrefused
    obtain ⟨hthere, hgiven⟩ := h
    cases hrefused with
    | standard missing => simpa [missing] using hgiven hpath
    | other other lost =>
      have hpath := hthere path hpath other
      rw [FileSystem.hasPath, lost] at hpath
      cases hpath
  · intro h
    constructor
    · intro path hpath other
      rw [FileSystem.hasPath]
      cases hfind : files.find path with
      | ok => rfl
      | error reason => exact absurd (.other other hfind) (h path hpath _)
    · intro hstandard
      cases hlanguage : language with
      | some => rfl
      | none => exact absurd (.standard hlanguage) (h _ hstandard _)

/-! ## One path after another -/

/-- A path that adds something is not refused. -/
lemma Contributes.not_refused {earlier : List String} {path : String} {inputs : List Input}
    (h : Contributes files language excluded earlier path inputs)
    (hearlier : standardPath ∈ earlier → language.isSome = true) (failure : Failure) :
    ¬ Refused files language path failure := by
  intro hrefused
  -- The path is that of the standard input or not, for the refusal as well as for what is added.
  cases hrefused with
  | standard missing =>
    cases h with
    | standard first given => simp [missing] at given
    | standardAgain again => simpa [missing] using hearlier again
    | file other => exact other rfl
    | directory other => exact other rfl
  | other other lost =>
    cases h with
    | standard => exact other rfl
    | standardAgain => exact other rfl
    | file _ leads => simp [leads] at lost
    | directory _ leads => simp [leads] at lost

/-- If a path adds something, a language is given in case that it is the standard input. -/
lemma Contributes.given {earlier : List String} {path : String} {inputs : List Input}
    (h : Contributes files language excluded earlier path inputs)
    (hearlier : standardPath ∈ earlier → language.isSome = true) :
    standardPath ∈ earlier ++ [path] → language.isSome = true := by
  intro hmem
  rw [List.mem_append, List.mem_singleton] at hmem
  obtain hmem | rfl := hmem
  · exact hearlier hmem
  · have hgiven := (available_iff [standardPath]).mpr fun p hp f => by
      obtain rfl := List.mem_singleton.mp hp
      exact h.not_refused hearlier f
    exact hgiven.2 List.mem_cons_self

/-- Where all paths contribute, none of them is refused. -/
lemma Collects.not_refused {earlier paths : List String} {inputs : List Input}
    (h : Collects files language excluded earlier paths inputs)
    (hearlier : standardPath ∈ earlier → language.isSome = true) :
    ∀ path ∈ paths, ∀ failure, ¬ Refused files language path failure := by
  induction h with
  | nil => simp
  | cons head tail ih =>
    exact List.forall_mem_cons.mpr ⟨head.not_refused hearlier, ih (head.given hearlier)⟩

/-- One path adds what it contributes, or is refused. -/
lemma ofPath_spec (h : files.root.WellFormed) (language : Option String)
    (excluded : List Glob.Matcher) (earlier : List String) {path : String}
    (hpath : path ≠ standardPath) :
    (∃ inputs, ofPath files language excluded path = .ok inputs ∧
      Contributes files language excluded earlier path inputs) ∨
    ∃ failure, ofPath files language excluded path = .error failure ∧
      Refused files language path failure := by
  rw [ofPath]
  match hfind : files.find path with
  | .error reason => exact .inr ⟨_, rfl, .other hpath hfind⟩
  | .ok (.file content) => exact .inl ⟨_, rfl, .file hpath hfind⟩
  | .ok (.directory entries) =>
    have hentries := FileSystem.wellFormed_of_find h hfind
    refine .inl ⟨_, rfl, ?_⟩
    rw [filter_sources, List.map_map]
    exact .directory hpath hfind (mem_selection_iff hentries) (selection_pairwise _ _ hentries)

/-- A path that is refused is the first one if it comes first. -/
lemma answers_refused {earlier paths : List String} {path : String} {failure : Failure}
    (h : Refused files language path failure) :
    Answers files language excluded earlier (path :: paths) (.error failure) :=
  ⟨[], path, paths, rfl, by simp, h⟩

/-- A path that adds something comes before what the others add, or before the first one of them
that is refused. -/
lemma Contributes.answers_cons {earlier paths : List String} {path : String} {inputs : List Input}
    {result : Except Failure (List Input)}
    (h : Contributes files language excluded earlier path inputs)
    (hearlier : standardPath ∈ earlier → language.isSome = true)
    (hrest : Answers files language excluded (earlier ++ [path]) paths result) :
    Answers files language excluded earlier (path :: paths) (result.map (inputs ++ ·)) := by
  cases result with
  | ok rest => exact .cons h hrest
  | error failure =>
    obtain ⟨front, refused, back, rfl, hfront, hrefused⟩ := hrest
    exact ⟨path :: front, refused, back, rfl,
      List.forall_mem_cons.mpr ⟨h.not_refused hearlier, hfront⟩, hrefused⟩

/-- The standard input is read once, however often it is named. -/
lemma ofPathsAfter_again (paths : List String) :
    ofPathsAfter files language excluded true (standardPath :: paths) =
      (ofPathsAfter files language excluded true paths).map ([] ++ ·) := by
  simp only [ofPathsAfter, if_true, List.nil_append]
  cases ofPathsAfter files language excluded true paths <;> rfl

lemma ofPathsAfter_standard (name : String) (paths : List String) :
    ofPathsAfter files (some name) excluded false (standardPath :: paths) =
      (ofPathsAfter files (some name) excluded true paths).map ([⟨standardPath, name⟩] ++ ·) := by
  simp only [ofPathsAfter, if_true, Bool.false_eq_true, if_false]
  cases ofPathsAfter files (some name) excluded true paths <;> rfl

lemma ofPathsAfter_other {path : String} (hpath : path ≠ standardPath) (taken : Bool)
    (paths : List String) :
    ofPathsAfter files language excluded taken (path :: paths) =
      ofPath files language excluded path >>= fun inputs =>
        (ofPathsAfter files language excluded taken paths).map (inputs ++ ·) := by
  simp only [ofPathsAfter, if_neg hpath]
  cases ofPathsAfter files language excluded taken paths <;> rfl

/-- The inputs of some paths are what they add one after another, unless one is refused. -/
theorem ofPathsAfter_answers (h : files.root.WellFormed) {earlier : List String}
    (hearlier : standardPath ∈ earlier → language.isSome = true) (paths : List String) :
    Answers files language excluded earlier paths
      (ofPathsAfter files language excluded (decide (standardPath ∈ earlier)) paths) := by
  -- Along the paths; what came earlier says whether the standard input has been taken.
  induction paths generalizing earlier with
  | nil => exact .nil earlier
  | cons path paths ih =>
    have hrest : ∀ {inputs : List Input},
        Contributes files language excluded earlier path inputs →
        Answers files language excluded earlier (path :: paths)
          ((ofPathsAfter files language excluded
            (decide (standardPath ∈ earlier ++ [path])) paths).map (inputs ++ ·)) :=
      fun hinputs => hinputs.answers_cons hearlier (ih (hinputs.given hearlier))
    by_cases hpath : path = standardPath
    · subst hpath
      have htaken : decide (standardPath ∈ earlier ++ [standardPath]) = true := by simp
      rw [htaken] at hrest
      by_cases hagain : standardPath ∈ earlier
      · rw [decide_eq_true hagain, ofPathsAfter_again]
        exact hrest (.standardAgain hagain)
      · rw [decide_eq_false hagain]
        cases language with
        | none => exact answers_refused (.standard rfl)
        | some name =>
          rw [ofPathsAfter_standard]
          exact hrest (.standard hagain rfl)
    · have htaken :
          decide (standardPath ∈ earlier ++ [path]) = decide (standardPath ∈ earlier) := by
        simp [Ne.symm hpath]
      rw [ofPathsAfter_other hpath]
      obtain ⟨inputs, hinputs, hadds⟩ | ⟨failure, hfailure, hrefused⟩ :=
        ofPath_spec h language excluded earlier hpath
      · rw [hinputs, ← htaken]
        exact hrest hadds
      · rw [hfailure]
        exact answers_refused hrefused

/-! ## All paths -/

lemma ofPaths_answers (h : files.root.WellFormed) (language : Option String)
    (excluded : List Glob.Matcher) (paths : List String) :
    Answers files language excluded [] paths (ofPaths files language excluded paths) := by
  have hearlier : standardPath ∈ ([] : List String) → language.isSome = true := by simp
  exact ofPathsAfter_answers h hearlier paths

/-- The inputs are found exactly if no path is refused. -/
lemma ofPaths_eq_ok_iff (h : files.root.WellFormed) (excluded : List Glob.Matcher)
    {paths : List String} :
    (∃ inputs, ofPaths files language excluded paths = .ok inputs) ↔
      Available files language paths := by
  have hanswers := ofPaths_answers h language excluded paths
  rw [available_iff]
  cases hresult : ofPaths files language excluded paths with
  | ok inputs =>
    rw [hresult] at hanswers
    have hcollects : Collects files language excluded [] paths inputs := hanswers
    exact ⟨fun _ => hcollects.not_refused (by simp), fun _ => ⟨inputs, rfl⟩⟩
  | error failure =>
    rw [hresult] at hanswers
    obtain ⟨front, path, back, rfl, -, hrefused⟩ := hanswers
    simpa using ⟨path, by simp, failure, hrefused⟩

/-- If all paths are there, and a language is given for the standard input if that is wanted, then
the inputs are what the paths add one after another. Otherwise the first path that is refused is
reported. -/
theorem ofPaths_exact (h : files.root.WellFormed) (language : Option String)
    (excluded : List Glob.Matcher) (paths : List String) :
    (Available files language paths →
      ∃ inputs, ofPaths files language excluded paths = .ok inputs ∧
        Collects files language excluded [] paths inputs) ∧
    (¬ Available files language paths →
      ∃ front path back failure, paths = front ++ path :: back ∧
        (∀ p ∈ front, ∀ f, ¬ Refused files language p f) ∧
        Refused files language path failure ∧
        ofPaths files language excluded paths = .error failure) := by
  have hanswers := ofPaths_answers h language excluded paths
  rw [← ofPaths_eq_ok_iff h excluded]
  cases hresult : ofPaths files language excluded paths with
  | ok inputs =>
    rw [hresult] at hanswers
    exact ⟨fun _ => ⟨inputs, rfl, hanswers⟩, fun hnone => absurd ⟨inputs, rfl⟩ hnone⟩
  | error failure =>
    rw [hresult] at hanswers
    obtain ⟨front, path, back, hsplit, hfront, hrefused⟩ := hanswers
    exact ⟨by simp, fun _ => ⟨front, path, back, failure, hsplit, hfront, hrefused, rfl⟩⟩

/-- A working directory with a hidden file, a directory that is passed over, and another one. -/
def workFiles : FileSystem where
  root := .directory [("work", .directory [("b.py", .file "print(1)".toUTF8),
    (".a.css", .file "p {}".toUTF8), ("sub", .directory [("é.c", .file .empty)]),
    ("vendor", .directory [("d.js", .file .empty)])])]
  workingDirectory := ["work"]

lemma workFiles_wellFormed : workFiles.root.WellFormed := by
  refine .directory (by decide) (by decide) ?_
  simp only [List.forall_mem_singleton]
  refine .directory (by decide) (by decide) ?_
  simp only [List.forall_mem_cons, List.not_mem_nil, false_implies, implies_true, and_true]
  refine ⟨.file _, .file _, .directory (by decide) (by decide) ?_,
    .directory (by decide) (by decide) ?_⟩ <;>
  · simp only [List.forall_mem_singleton]
    exact .file _

/-- Of two standard inputs the first one counts, and a file that is not there stops everything. -/
theorem ofPaths_exact_work :
    workFiles.root.WellFormed ∧
    (Available workFiles (some "python") ["-", ".", "sub/../b.py", "-"] ∧
      ∃ inputs, ofPaths workFiles (some "python") [] ["-", ".", "sub/../b.py", "-"] = .ok inputs ∧
        Collects workFiles (some "python") [] [] ["-", ".", "sub/../b.py", "-"] inputs) ∧
    ¬ Available workFiles none ["b.py", "b.py/", "-"] ∧
      ∃ front path back failure, ["b.py", "b.py/", "-"] = front ++ path :: back ∧
        (∀ p ∈ front, ∀ f, ¬ Refused workFiles none p f) ∧ Refused workFiles none path failure ∧
        ofPaths workFiles none [] ["b.py", "b.py/", "-"] = .error failure := by
  have hthere : Available workFiles (some "python") ["-", ".", "sub/../b.py", "-"] :=
    ⟨by decide +kernel, by decide⟩
  have hmissing : ¬ Available workFiles none ["b.py", "b.py/", "-"] :=
    fun h => absurd (h.2 (by decide)) (by decide)
  exact ⟨workFiles_wellFormed,
    ⟨hthere, (ofPaths_exact workFiles_wellFormed _ _ _).1 hthere⟩,
    hmissing, (ofPaths_exact workFiles_wellFormed _ _ _).2 hmissing⟩

end SnippetLint.Input
