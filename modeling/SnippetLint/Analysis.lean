import SnippetLint.Builtin
import SnippetLint.Score

/-!
# Analysis of a snippet

An analysis lists the defects of a snippet, scores it and sums both up in words. A snippet of
blanks has nothing to detect and is as good as one without defects.
-/

namespace SnippetLint

/-- What an analysis says about a snippet. -/
structure Analysis where
  hasErrors : Bool
  /-- The defects in the order of the rules. -/
  errors : List Defect
  summary : String
  codeQuality : UInt8
  /-- Advice about the language, whatever the defects are. -/
  suggestions : List String
  deriving Repr, DecidableEq

/-- The number of occurrences of the categories of defects, first occurrence first. -/
def categoryCounts (defects : List Defect) : List (Category × Nat) :=
  defects.foldl (fun counts d =>
    if counts.any (·.1 == d.category) then
      counts.map fun (c, n) => if c == d.category then (c, n + 1) else (c, n)
    else counts ++ [(d.category, 1)]) []

/-- The category of most defects; of several, the one that occurs first. -/
def dominantCategory (defects : List Defect) : Option Category :=
  let counts := categoryCounts defects
  let most := (counts.map (·.2)).foldl max 0
  (counts.find? (·.2 == most)).map (·.1)

namespace Analysis

/-- How the quality of a snippet is shown. -/
def band (a : Analysis) : QualityBand := .ofScore a.codeQuality

/-- The category of most defects. -/
def dominant (a : Analysis) : Option Category := dominantCategory a.errors

end Analysis

/-- The sentence about the defects of a snippet in a language. -/
def summarize (defects : List Defect) (language : String) : String :=
  match dominantCategory defects with
  | some category =>
    "Found " ++ decimal defects.length ++ " issue(s) in your " ++ language ++
      " code. The main problem is related to " ++ category.describe ++ "."
  | none => "Your " ++ language ++ " code looks good! No major issues detected."

/-- General advice about a language. -/
def Language.advice : Language → List String
  | .javaScript =>
    ["Consider using async/await for better readability",
      "Add error handling with try-catch blocks"]
  | .python =>
    ["Follow PEP 8 style guidelines", "Add type hints for better code documentation"]
  | .java =>
    ["Use meaningful variable names", "Consider using proper exception handling"]
  | .cpp =>
    ["Prefer RAII and smart pointers over manual memory management",
      "Pass large objects by const reference"]
  | .c =>
    ["Check the return value of every library call",
      "Bound every buffer write to avoid overflows"]
  | .html =>
    ["Use semantic elements such as <main> and <section>", "Provide alt text for every image"]
  | .css =>
    ["Group related declarations and keep selectors shallow",
      "Use custom properties for repeated values"]

/-- General advice about the language of a snippet, if that is known. -/
def advice (language : Option Language) : List String := language.elim [] Language.advice

/-- Rules and scoring, ready for use. -/
structure Analyzer where
  catalogue : Catalogue
  scoring : Scoring

namespace Analyzer

/-- The built-in rules with the default scoring. -/
def builtin : Analyzer := ⟨.builtin, {}⟩

/-- The name of a language in a summary: its identifier, or the text that names no language. -/
def displayName (name : String) : String :=
  match Language.parse? name with
  | some language => language.id
  | none => trimmed name

/-- The defects that an analysis lists: those of the rules, or none if the code is blank. -/
def defects (a : Analyzer) (code name : String) : List Defect :=
  if isBlankText code then [] else a.catalogue.detect code name

/-- Analyzes a snippet in the language that a text names. -/
def analyze (a : Analyzer) (code name : String) : Analysis :=
  let errors := a.defects code name
  { hasErrors := !errors.isEmpty
    errors
    summary := summarize errors (displayName name)
    codeQuality := a.scoring.score errors.length
    suggestions := advice (Language.parse? name) }

end Analyzer

end SnippetLint
