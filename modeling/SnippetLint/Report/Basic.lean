import SnippetLint.Analysis
import SnippetLint.Version

/-!
# Reports

A report gathers the analyses of several files and says whether all of them have the quality that
is asked for.
-/

namespace SnippetLint

/-- The analysis of one file. -/
structure FileReport where
  path : String
  /-- The identifier of the language, or the text that names no language. -/
  language : String
  result : Analysis
  deriving Repr, DecidableEq

/-- Whether a file has the quality that is asked for. -/
def FileReport.passes (r : FileReport) (minQuality : UInt8) : Bool :=
  minQuality ≤ r.result.codeQuality

/-- What a report holds for one file. -/
structure ReportEntry where
  path : String
  language : String
  band : QualityBand
  result : Analysis
  deriving Repr, DecidableEq

/-- A report of several files. -/
structure Report where
  version : String
  minQuality : UInt8
  passed : Bool
  filesAnalyzed : Nat
  totalIssues : Nat
  files : List ReportEntry
  deriving Repr, DecidableEq

namespace Report

/-- What a report holds for the analysis of a file. -/
def entry (r : FileReport) : ReportEntry :=
  { path := r.path, language := r.language, band := r.result.band, result := r.result }

/-- The report of the analyses of some files. -/
def ofFiles (files : List FileReport) (minQuality : UInt8) : Report :=
  { version := programVersion
    minQuality
    passed := files.all (·.passes minQuality)
    filesAnalyzed := files.length
    totalIssues := (files.flatMap (·.result.errors)).length
    files := files.map entry }

end Report

end SnippetLint
