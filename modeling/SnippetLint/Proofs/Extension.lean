import SnippetLint.Proofs.Spelling

/-!
# The language of a file

A file that is given by its path is in the language that its extension tells, and so it is for a
walk that comes to the file. An extension that tells no language is kept as the name of the
language of the file. It is then read as any other name, less strictly than as an extension: blanks
at its ends do not count, and the names of a language are not all among its extensions. So a file
that no walk comes to may be in a known language after all if it is given by its path
(`Input.language_of_file`).
-/

namespace SnippetLint

namespace Language

/-- A text names a language, whatever its case is and whatever blanks are at its ends. -/
def Names (s : List Char) (l : Language) : Prop :=
  ∃ name ∈ l.names, Unicode.lowercase (Text.trim s) = name.toList

/-- An identifier is known if it names a language. -/
lemma isSome_parse?_iff (s : String) : (parse? s).isSome ↔ ∃ l, Names s.toList l := by
  rw [parse?, List.find?_isSome]
  simp only [Names, List.contains_iff_mem, List.mem_map, mem_all, true_and]
  exact exists_congr fun l => exists_congr fun name => and_congr_right fun _ => eq_comm

/-- The names of languages that are no extensions. -/
def properNames : List String := ["javascript", "python", "c++"]

/-- A name of a language is one of the proper names or an extension of some language. -/
lemma mem_properNames_or_mem_extensions : ∀ l ∈ all, ∀ name ∈ l.names,
    name ∈ properNames ∨ ∃ m ∈ all, name ∈ m.extensions := by
  decide

/-- An extension that tells no language can name one in two ways only. -/
lemma Names.of_ofExtension?_eq_none {ext : List Char} {l : Language} (h : Names ext l)
    (hnone : ofExtension? ext = none) :
    Text.trim ext ≠ ext ∨ ∃ name ∈ properNames, Unicode.lowercase ext = name.toList := by
  obtain ⟨name, hname, hlower⟩ := h
  by_cases htrim : Text.trim ext = ext
  · right
    rw [htrim] at hlower
    refine ⟨name, ?_, hlower⟩
    obtain hproper | ⟨m, hm, hext⟩ := mem_properNames_or_mem_extensions l (mem_all l) name hname
    · exact hproper
    -- As an extension, the name would have told its language.
    · have hmissing := List.find?_eq_none.mp hnone m hm
      rw [List.contains_iff_mem, hlower] at hmissing
      exact absurd (List.mem_map_of_mem hext) hmissing
  · exact .inl htrim

end Language

/-- Rules are found for the texts that name a language, and for no others. -/
lemma Catalogue.exists_lookup_ne_nil_iff (s : String) :
    (∃ c : Catalogue, c.lookup s ≠ []) ↔ (Language.parse? s).isSome := by
  constructor
  · rintro ⟨c, hc⟩
    rw [Catalogue.lookup] at hc
    cases h : Language.parse? s with
    | none => simp [h] at hc
    | some l => rfl
  · intro h
    obtain ⟨l, hl⟩ := Option.isSome_iff_exists.mp h
    refine ⟨Catalogue.builtin, ?_⟩
    rw [Catalogue.lookup, hl, Option.elim_some]
    cases l <;> exact List.cons_ne_nil _ _

namespace Input

open SnippetLint.Language

variable {files : FileSystem} {excluded : List Glob.Matcher}

/-! ## What a path adds -/

section

variable {language : Option String} {earlier : List String} {path : String} {inputs : List Input}

/-- A file given by its path contributes itself, with the language asked for or that of its path. -/
lemma Contributes.of_file {content : ByteArray}
    (h : Contributes files language excluded earlier path inputs) (other : path ≠ standardPath)
    (hfind : files.find path = .ok (.file content)) :
    inputs = [⟨path, language.getD (languageOfPath path)⟩] := by
  cases h with
  | standard => exact absurd rfl other
  | standardAgain => exact absurd rfl other
  | file => rfl
  | directory _ leads => simp [leads] at hfind

/-- A directory contributes the files in it that are wanted. -/
lemma Contributes.of_directory {entries : List (String × FileTree)}
    (h : Contributes files language excluded earlier path inputs) (other : path ≠ standardPath)
    (hfind : files.find path = .ok (.directory entries)) (input : Input) :
    input ∈ inputs ↔ ∃ names, Wanted excluded path (.directory entries) names ∧
      input = ⟨joined path names, language.getD (languageOfPath (joined path names))⟩ := by
  cases h with
  | standard => exact absurd rfl other
  | standardAgain => exact absurd rfl other
  | file _ leads => simp [leads] at hfind
  | directory _ leads exact =>
    rw [hfind] at leads
    cases leads
    simp only [List.mem_map, exact, eq_comm]

lemma Collects.singleton (h : Collects files language excluded earlier [path] inputs) :
    Contributes files language excluded earlier path inputs := by
  cases h with
  | cons head tail =>
    cases tail
    rwa [List.append_nil]

/-- What one path of several adds stands between what those before it and those behind it add. -/
lemma Collects.split {front : List String} {back : List String}
    (h : Collects files language excluded earlier (front ++ path :: back) inputs) :
    ∃ before own after, inputs = before ++ own ++ after ∧
      Collects files language excluded earlier front before ∧
      Contributes files language excluded (earlier ++ front) path own := by
  induction front generalizing earlier inputs with
  | nil =>
    cases h with
    | @cons _ _ _ own rest head tail =>
      exact ⟨[], own, rest, rfl, .nil _, by rwa [List.append_nil]⟩
  | cons p front ih =>
    cases h with
    | @cons _ _ _ first rest head tail =>
      obtain ⟨before, own, after, rfl, hbefore, hown⟩ := ih tail
      refine ⟨first ++ before, own, after, by simp, .cons head hbefore, ?_⟩
      rwa [List.append_assoc, List.singleton_append] at hown

end

/-! ## What a file is taken to be -/

/-- Files of the same name are in the same language, wherever they are. -/
lemma languageOfPath_congr {path path' : String}
    (h : Path.fileName? path.toList = Path.fileName? path'.toList) :
    ofPath? path = ofPath? path' ∧ languageOfPath path = languageOfPath path' := by
  have hext : Path.extension? path.toList = Path.extension? path'.toList := by
    rw [Path.extension?, Path.extension?, h]
  have hof : ofPath? path = ofPath? path' := by rw [ofPath?, ofPath?, hext]
  exact ⟨hof, by rw [languageOfPath, languageOfPath, hof, hext]⟩

lemma languageOfPath_of_known {path : String} {l : Language} (h : ofPath? path = some l) :
    languageOfPath path = l.id := by
  rw [languageOfPath, h]

/-- A file whose extension tells no language is in a language only if the extension names it. -/
lemma isSome_parse?_languageOfPath_iff {path : String} (h : ofPath? path = none) :
    (parse? (languageOfPath path)).isSome ↔
      ∃ ext, Path.extension? path.toList = some ext ∧ ∃ l, Names ext l := by
  rw [languageOfPath, h]
  dsimp only
  cases hext : Path.extension? path.toList with
  | none =>
    have htext : parse? "text" = none := by decide +kernel
    simp [htext]
  | some ext => simp [isSome_parse?_iff]

/-- A file that is given by its path, and without a language, is an input of its own. If its
extension tells a language, its input is in that language, and every walk that comes to the file, or
to another of its name, says the same. If not, no walk comes to the file, and there are rules for it
only if its extension is the name of a language: this takes blanks at the ends of the extension, or
one of the names that are no extensions. -/
theorem language_of_file (hfiles : files.root.WellFormed) (excluded : List Glob.Matcher)
    {path : String} {content : ByteArray} (other : path ≠ standardPath)
    (hfind : files.find path = .ok (.file content)) :
    ∃ id, ofPaths files none excluded [path] = .ok [⟨path, id⟩] ∧
      (∀ front back inputs, ofPaths files none excluded (front ++ path :: back) = .ok inputs →
        ∃ before after, inputs = before ++ ⟨path, id⟩ :: after ∧
          Collects files none excluded [] front before) ∧
      (∀ l, ofPath? path = some l → parse? id = some l) ∧
      (∀ directory entries inputs, directory ≠ standardPath →
        files.find directory = .ok (.directory entries) →
        ofPaths files none excluded [directory] = .ok inputs →
        (∀ names, joined directory names = path →
          Wanted excluded directory (.directory entries) names → ⟨path, id⟩ ∈ inputs) ∧
        ∀ input ∈ inputs, Path.fileName? input.path.toList = Path.fileName? path.toList →
          (ofPath? path).isSome ∧ input.language = id) ∧
      (ofPath? path = none →
        ((∃ c : Catalogue, c.lookup id ≠ []) ↔
          ∃ ext, Path.extension? path.toList = some ext ∧ ∃ l, Names ext l) ∧
        ∀ ext l, Path.extension? path.toList = some ext → Names ext l →
          Text.trim ext ≠ ext ∨
            ∃ name ∈ ["javascript", "python", "c++"], Unicode.lowercase ext = name.toList) := by
  have hcollects : ∀ {paths inputs}, ofPaths files none excluded paths = .ok inputs →
      Collects files none excluded [] paths inputs := by
    intro paths inputs hinputs
    have hanswers := ofPaths_answers hfiles none excluded paths
    rwa [hinputs] at hanswers
  refine ⟨languageOfPath path, ?_, ?_, ?_, ?_, fun hnone => ⟨?_, ?_⟩⟩
  · rw [ofPaths, ofPathsAfter_other other, ofPath, hfind]
    rfl
  · intro front back inputs hinputs
    obtain ⟨before, own, after, rfl, hbefore, hown⟩ := (hcollects hinputs).split
    obtain rfl := hown.of_file other hfind
    exact ⟨before, after, by simp, hbefore⟩
  · intro l hl
    rw [languageOfPath_of_known hl, parse?_id]
  -- A walk takes the files whose paths tell a language, in that language.
  · intro directory entries inputs hother hdirectory hinputs
    have hmem := (hcollects hinputs).singleton.of_directory hother hdirectory
    constructor
    · rintro names rfl hwanted
      exact (hmem _).mpr ⟨names, hwanted, rfl⟩
    · intro input hinput hname
      obtain ⟨names, hwanted, rfl⟩ := (hmem input).mp hinput
      obtain ⟨hof, hlanguage⟩ := languageOfPath_congr hname
      exact ⟨hof ▸ hwanted.known, hlanguage⟩
  · rw [Catalogue.exists_lookup_ne_nil_iff]
    exact isSome_parse?_languageOfPath_iff hnone
  · intro ext l hext hnames
    refine hnames.of_ofExtension?_eq_none ?_
    rwa [ofPath?, hext] at hnone

/-- A file that a walk comes to, and one that none comes to although its extension names a
language. -/
def sourceFiles : FileSystem where
  root := .directory [("src", .directory [("a.JSX", .file "var x;".toUTF8)]),
    ("main.c++", .file "int main() \x7b cout << 1; \x7d".toUTF8)]
  workingDirectory := []

lemma sourceFiles_wellFormed : sourceFiles.root.WellFormed := by
  refine .directory (by decide) (by decide) ?_
  simp only [List.forall_mem_cons, List.not_mem_nil, false_implies, implies_true, and_true]
  refine ⟨.directory (by decide) (by decide) ?_, .file _⟩
  simp only [List.forall_mem_singleton]
  exact .file _

/-- A file found in its directory with the language of its path, and one of which the extension is
that of no language but names one. -/
theorem language_of_file_sources :
    sourceFiles.root.WellFormed ∧
    (∃ id, ofPaths sourceFiles none [] ["src/a.JSX"] = .ok [⟨"src/a.JSX", id⟩] ∧
      parse? id = some .javaScript ∧
      ∃ inputs, ofPaths sourceFiles none [] ["src"] = .ok inputs ∧ ⟨"src/a.JSX", id⟩ ∈ inputs) ∧
    ∃ id, ofPaths sourceFiles none [] ["main.c++"] = .ok [⟨"main.c++", id⟩] ∧
      ofPath? "main.c++" = none ∧ ∃ c : Catalogue, c.lookup id ≠ [] := by
  refine ⟨sourceFiles_wellFormed, ?_, ?_⟩
  · have hfind : sourceFiles.find "src/a.JSX" = .ok (.file "var x;".toUTF8) := rfl
    obtain ⟨id, hid, -, hknown, hwalk, -⟩ :=
      language_of_file sourceFiles_wellFormed [] (by decide) hfind
    have hlanguage : ofPath? "src/a.JSX" = some .javaScript := by decide +kernel
    have hwanted : Wanted [] "src" (.directory [("a.JSX", .file "var x;".toUTF8)]) ["a.JSX"] :=
      ⟨⟨_, rfl⟩, by decide +kernel, by simp, by simp⟩
    have hinputs : ofPaths sourceFiles none [] ["src"] = .ok [⟨"src/a.JSX", "javascript"⟩] := by
      decide +kernel
    exact ⟨id, hid, hknown _ hlanguage, _, hinputs,
      (hwalk "src" _ _ (by decide) rfl hinputs).1 _ (by decide +kernel) hwanted⟩
  · have hfind : sourceFiles.find "main.c++" =
        .ok (.file "int main() \x7b cout << 1; \x7d".toUTF8) := rfl
    obtain ⟨id, hid, -, -, -, hunknown⟩ :=
      language_of_file sourceFiles_wellFormed [] (by decide) hfind
    have hnone : ofPath? "main.c++" = none := by decide +kernel
    have hnames : Names "c++".toList .cpp := ⟨"c++", by decide, by decide +kernel⟩
    exact ⟨id, hid, hnone, (hunknown hnone).1.mpr ⟨_, by decide +kernel, _, hnames⟩⟩

/-- A file that no walk comes to, since its extension tells no language, can have rules. -/
theorem exists_rules_of_unknown_extension :
    ¬ ∀ (files : FileSystem) (path id : String) (content : ByteArray), path ≠ standardPath →
      files.find path = .ok (.file content) →
      ofPaths files none [] [path] = .ok [⟨path, id⟩] → ofPath? path = none →
      ∀ c : Catalogue, c.lookup id = [] := by
  intro h
  have hid : ofPaths sourceFiles none [] ["main.c++"] = .ok [⟨"main.c++", "c++"⟩] := by
    decide +kernel
  have hempty := h sourceFiles "main.c++" "c++" _ (by decide) rfl hid (by decide +kernel) .builtin
  have hparse : parse? "c++" = some .cpp := by decide +kernel
  rw [Catalogue.lookup, hparse] at hempty
  exact absurd hempty (List.cons_ne_nil _ _)

end Input

end SnippetLint
