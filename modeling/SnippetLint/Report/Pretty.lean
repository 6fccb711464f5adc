import SnippetLint.Report.Basic
import SnippetLint.Report.Styled

/-!
# Reports for readers

A report as a text for the terminal: a headline, a section for each file, and the status of all
files together.
-/

namespace SnippetLint

/-- The end of a line. -/
def lineEnd : Piece := plain "\n"

/-- A text filled up with blanks to a width. -/
def padded (width : Nat) (s : String) : String := .ofList (Text.padRight width s.toList)

/-- How the score of a band looks. -/
def QualityBand.style : QualityBand → Style
  | good => .greenBold
  | fair => .yellow
  | poor => .red

/-- The tag of a severity. -/
def Severity.tag : Severity → Piece
  | error => styled .red "ERROR"
  | warning => styled .yellow "WARN "
  | info => styled .blue "INFO "

namespace Report

/-- The lines of a defect. -/
def prettyDefect (d : Defect) : StyledText :=
  [plain "    ", d.severity.tag, plain "    ", styled .dimmed (padded 18 d.rule),
    styled .dimmed ("line " ++ decimal d.line), lineEnd,
    plain ("            " ++ d.message), lineEnd,
    plain "            ", styled .green "fix:", plain (" " ++ d.suggestion), lineEnd,
    plain "            ", styled .yellow "why:", plain (" " ++ d.consequence), lineEnd,
    lineEnd]

/-- The lines of all defects of a file. -/
def prettyDefects (defects : List Defect) : StyledText :=
  if defects.isEmpty then []
  else
    [plain "  ", styled .bold "Issues", plain (" (" ++ decimal defects.length ++ "):"), lineEnd,
      lineEnd] ++ defects.flatMap prettyDefect

/-- The lines of the advice about a file. -/
def prettySuggestions (suggestions : List String) : StyledText :=
  if suggestions.isEmpty then []
  else
    [plain "  ", styled .bold "Suggestions:", lineEnd] ++
      suggestions.flatMap fun s => [plain ("    - " ++ s), lineEnd]

/-- The section of a file. -/
def prettyFile (file : FileReport) : StyledText :=
  let result := file.result
  let issues :=
    if result.hasErrors then styled .red (decimal result.errors.length ++ " Issues Found")
    else styled .green "No Issues Found"
  [plain "  ", styled .blueBold file.path, plain "  ",
    styled .dimmed ("(" ++ file.language ++ ")"), lineEnd,
    plain "  ", issues, plain "  Quality: ",
    styled result.band.style (decimal result.codeQuality.toNat), plain "%", lineEnd, lineEnd,
    plain ("  " ++ result.summary), lineEnd, lineEnd] ++
    prettyDefects result.errors ++ prettySuggestions result.suggestions

/-- The status of all files together. -/
def prettyStatus (files : List FileReport) (minQuality : UInt8) : StyledText :=
  let failing := files.countP fun file => !file.passes minQuality
  let status :=
    if failing = 0 then styled .green "PASSED"
    else styled .red ("FAILED (" ++ decimal failing ++ " below minimum)")
  [plain "  ", styled .dimmed ("Minimum quality: " ++ decimal minQuality.toNat),
    plain ("  Files: " ++ decimal files.length ++ "  "), status, lineEnd]

/-- The report of the analyses of some files as a text. -/
def pretty (files : List FileReport) (minQuality : UInt8) : StyledText :=
  [lineEnd, plain "  ", styled .cyanBold programName, plain (" v" ++ programVersion), lineEnd,
    lineEnd] ++ files.flatMap (fun file => prettyFile file ++ [lineEnd]) ++
    prettyStatus files minQuality ++ [lineEnd]

end Report

end SnippetLint
