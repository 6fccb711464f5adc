import SnippetLint.Config.Json
import SnippetLint.Report.Basic

/-!
# Reports as JSON

The members of an analysis stand beside the path and the language of its file, so a file of a
report is read from an object only.
-/

namespace SnippetLint

open Json

/-- A language from JSON. -/
def Language.ofJson : Json → Decoded Language := asName all id

/-- A category from JSON. -/
def Category.ofJson : Json → Decoded Category := asName all name

/-- A band as JSON. -/
def QualityBand.toJson (b : QualityBand) : Json := .string b.name

/-- A band from JSON. -/
def QualityBand.ofJson : Json → Decoded QualityBand := asName all name

/-- A defect as JSON. -/
def Defect.toJson (d : Defect) : Json :=
  .object [("rule", .string d.rule), ("line", .nat d.line), ("type", d.severity.toJson),
    ("message", .string d.message), ("suggestion", .string d.suggestion),
    ("consequence", .string d.consequence)]

/-- A defect from JSON. -/
def Defect.ofJson (j : Json) : Decoded Defect := do
  let fields ← j.record ["rule", "line", "type", "message", "suggestion", "consequence"]
  return {
    rule := ← fields.required "rule" asString
    line := ← fields.required "line" asWord
    severity := ← fields.required "type" Severity.ofJson
    message := ← fields.required "message" asString
    suggestion := ← fields.required "suggestion" asString
    consequence := ← fields.required "consequence" asString }

namespace Analysis

/-- The names of the members of an analysis. -/
def fieldNames : List String := ["hasErrors", "errors", "summary", "codeQuality", "suggestions"]

/-- The members of an analysis. -/
def members (a : Analysis) : List (String × Json) :=
  [("hasErrors", .bool a.hasErrors), ("errors", .array (a.errors.map Defect.toJson)),
    ("summary", .string a.summary), ("codeQuality", .nat a.codeQuality.toNat),
    ("suggestions", .array (a.suggestions.map .string))]

/-- An analysis as JSON. -/
def toJson (a : Analysis) : Json := .object a.members

/-- An analysis from its fields. -/
def ofFields (fields : Fields) : Decoded Analysis := do
  return {
    hasErrors := ← fields.required "hasErrors" asBool
    errors := ← fields.required "errors" (asList Defect.ofJson)
    summary := ← fields.required "summary" asString
    codeQuality := ← fields.required "codeQuality" asByte
    suggestions := ← fields.required "suggestions" (asList asString) }

/-- An analysis from JSON. -/
def ofJson (j : Json) : Decoded Analysis := do ofFields (← j.record fieldNames)

end Analysis

/-- What a report holds for one file as JSON. -/
def ReportEntry.toJson (e : ReportEntry) : Json :=
  .object ([("path", .string e.path), ("language", .string e.language),
    ("quality_band", e.band.toJson)] ++ e.result.members)

/-- What a report holds for one file from JSON. -/
def ReportEntry.ofJson : Json → Decoded ReportEntry
  | .object members => do
    let fields ← objectFields (["path", "language", "quality_band"] ++ Analysis.fieldNames) members
    return {
      path := ← fields.required "path" asString
      language := ← fields.required "language" asString
      band := ← fields.required "quality_band" QualityBand.ofJson
      result := ← Analysis.ofFields fields }
  | _ => .error (.expected "an object")

/-- A report as JSON. -/
def Report.toJson (r : Report) : Json :=
  .object [("version", .string r.version), ("min_quality", .nat r.minQuality.toNat),
    ("passed", .bool r.passed), ("files_analyzed", .nat r.filesAnalyzed),
    ("total_issues", .nat r.totalIssues), ("files", .array (r.files.map ReportEntry.toJson))]

/-- A report from JSON. -/
def Report.ofJson (j : Json) : Decoded Report := do
  let fields ← j.record
    ["version", "min_quality", "passed", "files_analyzed", "total_issues", "files"]
  return {
    version := ← fields.required "version" asString
    minQuality := ← fields.required "min_quality" asByte
    passed := ← fields.required "passed" asBool
    filesAnalyzed := ← fields.required "files_analyzed" asWord
    totalIssues := ← fields.required "total_issues" asWord
    files := ← fields.required "files" (asList ReportEntry.ofJson) }

/-- The text of a report as JSON, with its line feed. -/
def Report.jsonText (r : Report) : String := r.toJson.pretty.push '\n'

end SnippetLint
