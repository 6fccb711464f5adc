import Mathlib.Algebra.GroupWithZero.Nat
import SnippetLint.Proofs.Colors
import SnippetLint.Proofs.ReportJson
import SnippetLint.Program.Run

/-!
# What can be read in a printed report

A report is printed for programs or for readers. For programs it is a text from which the report can
be read back. For readers it is a text of lines (`Report.lines`): a headline, the lines of one file
after another, and one line for all files together; `Report.render_pretty` says that these are just
the lines that are printed. Either way all files are there, in their order, and nothing else is
(`Report.Shows`).
-/

namespace SnippetLint

/-- A column is filled up with blanks, unless its text is wider than it. -/
lemma padded_eq (width : Nat) (s : String) :
    padded width s = s ++ .ofList (List.replicate (width - s.length) ' ') := by
  apply String.toList_injective
  rw [padded, Text.padRight, String.toList_ofList, String.toList_append, String.toList_ofList,
    String.length_toList]

/-- The text of some lines goes on with that of the lines after them. -/
@[simp]
lemma textOfLines_append (ls ls' : List String) :
    textOfLines (ls ++ ls') = textOfLines ls ++ textOfLines ls' := by
  simp [textOfLines]

namespace Report

/-! ## Lines for readers -/

/-- The word for a severity, as wide as the others. -/
def severityWord : Severity → String
  | .error => "ERROR"
  | .warning => "WARN "
  | .info => "INFO "

/-- The lines of a defect. -/
def defectLines (d : Defect) : List String :=
  ["    " ++ severityWord d.severity ++ "    " ++ d.rule ++
      .ofList (List.replicate (18 - d.rule.length) ' ') ++ "line " ++ decimal d.line,
    "            " ++ d.message,
    "            fix: " ++ d.suggestion,
    "            why: " ++ d.consequence,
    ""]

/-- The lines of all defects of a file, which are counted first. -/
def issueLines : List Defect → List String
  | [] => []
  | defects@(_ :: _) =>
    ["  Issues (" ++ decimal defects.length ++ "):", ""] ++ defects.flatMap defectLines

/-- The lines of the advice about a file. -/
def suggestionLines : List String → List String
  | [] => []
  | suggestions@(_ :: _) => ["  Suggestions:"] ++ suggestions.map ("    - " ++ ·)

/-- The lines of a file. -/
def fileLines (file : FileReport) : List String :=
  let issues :=
    if file.result.hasErrors then decimal file.result.errors.length ++ " Issues Found"
    else "No Issues Found"
  ["  " ++ file.path ++ "  (" ++ file.language ++ ")",
    "  " ++ issues ++ "  Quality: " ++ decimal file.result.codeQuality.toNat ++ "%",
    "",
    "  " ++ file.result.summary,
    ""] ++ issueLines file.result.errors ++ suggestionLines file.result.suggestions ++ [""]

/-- The line for all files together. -/
def statusLine (files : List FileReport) (m : UInt8) : String :=
  let low := files.countP fun file => file.result.codeQuality < m
  let status := if low = 0 then "PASSED" else "FAILED (" ++ decimal low ++ " below minimum)"
  "  Minimum quality: " ++ decimal m.toNat ++ "  Files: " ++ decimal files.length ++ "  " ++ status

/-- The lines of a report. -/
def lines (files : List FileReport) (m : UInt8) : List String :=
  ["", "  " ++ programName ++ " v" ++ programVersion, ""] ++ files.flatMap fileLines ++
    [statusLine files m, ""]

end Report

namespace StyledText

/-- A styled text is printed piece by piece. -/
lemma render_append (t u : StyledText) (color : Bool) :
    StyledText.render color (t ++ u) = t.render color ++ u.render color := by
  simp [render]

/-- Lines without a style are printed one after another, each with its line feed. -/
lemma render_textOfLines (ls : List String) (color : Bool) :
    StyledText.render color [plain (textOfLines ls)] = String.join (ls.map (· ++ "\n")) := by
  have hfeed : ∀ s : String, s.push '\n' = s ++ "\n" := fun s => by
    apply String.toList_injective
    simp
  simp [render, Piece.render, plain, textOfLines, hfeed]

/-- If what is printed for each member of a list has the lines of the member, what is printed for the
list has the lines of all members. -/
lemma render_flatMap {α : Type} {f : α → StyledText} {ls : α → List String}
    (h : ∀ a, (f a).render false = textOfLines (ls a)) (as : List α) :
    StyledText.render false (as.flatMap f) = textOfLines (as.flatMap ls) := by
  induction as with
  | nil => rfl
  | cons a as ih =>
    rw [List.flatMap_cons, List.flatMap_cons, render_append, textOfLines_append, h, ih]

end StyledText

namespace Report

/-- A defect is printed as its lines. -/
lemma render_prettyDefect (d : Defect) :
    StyledText.render false (prettyDefect d) = textOfLines (defectLines d) := by
  have htag : d.severity.tag.text = severityWord d.severity := by cases d.severity <;> rfl
  apply String.toList_injective
  simp [StyledText.render_false, prettyDefect, plain, styled, lineEnd, padded_eq, htag, defectLines,
    textOfLines]

lemma render_prettyDefects (defects : List Defect) :
    StyledText.render false (prettyDefects defects) = textOfLines (issueLines defects) := by
  have hhead : ∀ count : String, StyledText.render false [plain "  ", styled .bold "Issues",
      plain (" (" ++ count ++ "):"), lineEnd, lineEnd] =
        textOfLines ["  Issues (" ++ count ++ "):", ""] := by
    intro count
    apply String.toList_injective
    simp [StyledText.render_false, plain, styled, lineEnd, textOfLines]
  cases defects with
  | nil => rfl
  | cons d defects =>
    rw [prettyDefects, if_neg (by simp), issueLines, StyledText.render_append, textOfLines_append,
      StyledText.render_flatMap render_prettyDefect, hhead]

lemma render_prettySuggestions (suggestions : List String) :
    StyledText.render false (prettySuggestions suggestions) =
      textOfLines (suggestionLines suggestions) := by
  have hone : ∀ s : String, StyledText.render false [plain ("    - " ++ s), lineEnd] =
      textOfLines ["    - " ++ s] := by
    intro s
    apply String.toList_injective
    simp [StyledText.render_false, plain, lineEnd, textOfLines]
  cases suggestions with
  | nil => rfl
  | cons s suggestions =>
    rw [prettySuggestions, if_neg (by simp), StyledText.render_append,
      StyledText.render_flatMap hone, suggestionLines, List.map_eq_flatMap,
      textOfLines_append]
    rfl

/-- The section of a file has the lines of the file, but for the blank one behind it. -/
lemma render_prettyFile (file : FileReport) :
    StyledText.render false (prettyFile file ++ [lineEnd]) = textOfLines (fileLines file) := by
  have hlast : StyledText.render false [lineEnd] = textOfLines [""] := rfl
  rw [prettyFile, fileLines, StyledText.render_append, StyledText.render_append,
    StyledText.render_append, render_prettyDefects, render_prettySuggestions, hlast,
    textOfLines_append, textOfLines_append, textOfLines_append]
  -- What is left is the head of the section, in which the defects are counted or said to be none.
  refine congrArg (· ++ _ ++ _ ++ _) ?_
  apply String.toList_injective
  cases file.result.hasErrors <;>
    simp [StyledText.render_false, plain, styled, lineEnd, textOfLines]

lemma render_prettyStatus (files : List FileReport) (m : UInt8) :
    StyledText.render false (prettyStatus files m) = textOfLines [statusLine files m] := by
  have hlow : (files.countP fun file => !file.passes m) =
      files.countP fun file => decide (file.result.codeQuality < m) := by
    refine List.countP_congr fun file _ => ?_
    rw [FileReport.passes, Bool.not_eq_true', decide_eq_false_iff_not, UInt8.not_le,
      decide_eq_true_eq]
  unfold prettyStatus statusLine
  rw [hlow]
  generalize (files.countP fun file => decide (file.result.codeQuality < m)) = low
  dsimp only
  apply String.toList_injective
  split <;> simp [StyledText.render_false, plain, styled, lineEnd, textOfLines]

/-- Without colors, a report for readers has just its lines. -/
lemma render_pretty (files : List FileReport) (m : UInt8) :
    StyledText.render false (pretty files m) = textOfLines (lines files m) := by
  have hhead : StyledText.render false [lineEnd, plain "  ", styled .cyanBold programName,
      plain (" v" ++ programVersion), lineEnd, lineEnd] =
        textOfLines ["", "  " ++ programName ++ " v" ++ programVersion, ""] := by
    apply String.toList_injective
    simp [StyledText.render_false, plain, styled, lineEnd, textOfLines]
  have hend : textOfLines [statusLine files m, ""] =
      textOfLines [statusLine files m] ++ textOfLines [""] :=
    textOfLines_append [statusLine files m] [""]
  rw [pretty, lines, StyledText.render_append, StyledText.render_append, StyledText.render_append,
    hhead, StyledText.render_flatMap render_prettyFile, render_prettyStatus, textOfLines_append,
    textOfLines_append, hend, String.append_assoc]
  rfl

/-! ## Reports that can be read back -/

/-- An entry says what is known about a file. -/
structure EntryOf (file : FileReport) (e : ReportEntry) : Prop where
  path : e.path = file.path
  language : e.language = file.language
  band : e.band = file.result.band
  result : e.result = file.result

/-- A report is about some files: it has an entry for each of them, in their order, and its numbers
are those of the files. -/
structure About (files : List FileReport) (m : UInt8) (r : Report) : Prop where
  version : r.version = programVersion
  minQuality : r.minQuality = m
  passed : r.passed = true ↔ ∀ file ∈ files, m ≤ file.result.codeQuality
  filesAnalyzed : r.filesAnalyzed = files.length
  totalIssues : r.totalIssues = (files.map fun file => file.result.errors.length).sum
  entries : List.Forall₂ EntryOf files r.files

/-- A report is passed if all files are good enough. -/
lemma passed_iff (files : List FileReport) (m : UInt8) :
    (ofFiles files m).passed = true ↔ ∀ file ∈ files, m ≤ file.result.codeQuality := by
  show files.all (·.passes m) = true ↔ _
  rw [List.all_eq_true]
  simp only [FileReport.passes, decide_eq_true_eq]

/-- The defects of all files are counted together. -/
lemma totalIssues_eq (files : List FileReport) (m : UInt8) :
    (ofFiles files m).totalIssues = (files.map fun file => file.result.errors.length).sum := by
  show (files.flatMap _).length = _
  rw [List.length_flatMap]

/-- The report that is made of some files is about them. -/
lemma about_ofFiles (files : List FileReport) (m : UInt8) : About files m (ofFiles files m) where
  version := rfl
  minQuality := rfl
  passed := passed_iff files m
  filesAnalyzed := rfl
  totalIssues := totalIssues_eq files m
  entries := List.forall₂_map_right_iff.mpr (List.forall₂_same.mpr fun _ _ => ⟨rfl, rfl, rfl, rfl⟩)

/-- What is printed in a format shows some files and no others. Numbers that a program reads have to
fit into its words. -/
inductive Shows (format : String) (files : List FileReport) (m : UInt8) (output : StyledText) : Prop
  | forPrograms {j : Json} (format : format = "json")
      (parsed : ∀ color, Json.parse? (output.render color) = some j)
      (decoded : FitsWords files → ∃ r, Report.ofJson j = .ok r ∧ About files m r)
  | forReaders (format : format = "pretty")
      (text : output.render false = textOfLines (lines files m))
      (colored : (∀ file ∈ files, file.Unescaped) →
        withoutSequences (output.render true) = textOfLines (lines files m))

/-- What is printed in a known format shows the files that it is about. -/
lemma shows_formatReport {format : String} (h : format = "pretty" ∨ format = "json")
    (files : List FileReport) (m : UInt8) :
    Shows format files m (Run.formatReport format files m) := by
  obtain rfl | rfl := h
  · refine .forReaders rfl (render_pretty files m) fun hfiles => ?_
    rw [← render_pretty, StyledText.render_false]
    exact StyledText.withoutSequences_render (unescaped_pretty hfiles m) true
  · refine .forPrograms rfl (fun color => ?_) fun hfits =>
      ⟨_, Report.ofJson_toJson (hfits.fits_ofFiles m), about_ofFiles files m⟩
    have hrender : StyledText.render color (Run.formatReport "json" files m) =
        (ofFiles files m).jsonText := by
      simp [Run.formatReport, StyledText.render, Piece.render, plain, String.join]
    rw [hrender]
    exact Json.parse?_pretty (plain_toJson _)

end Report

end SnippetLint
