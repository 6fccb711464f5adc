import SnippetLint.Config.Basic
import SnippetLint.Json.Decode

/-!
# Configurations as JSON

Every field of a configuration may be left out, and so may the severity and the line of a rule.
-/

namespace SnippetLint

open Json

/-- Scoring parameters as JSON. -/
def Scoring.toJson (s : Scoring) : Json :=
  .object [("clean_score", .nat s.cleanScore.toNat), ("baseline", .nat s.baseline.toNat),
    ("penalty", .nat s.penalty.toNat)]

/-- Scoring parameters from JSON. -/
def Scoring.ofJson (j : Json) : Decoded Scoring := do
  let fields ← j.record ["clean_score", "baseline", "penalty"]
  return {
    cleanScore := ← fields.withDefault "clean_score" ({} : Scoring).cleanScore asByte
    baseline := ← fields.withDefault "baseline" ({} : Scoring).baseline asByte
    penalty := ← fields.withDefault "penalty" ({} : Scoring).penalty asByte }

/-- A severity as JSON. -/
def Severity.toJson (s : Severity) : Json := .string s.name

/-- A severity from JSON. -/
def Severity.ofJson : Json → Decoded Severity := asName all name

/-- A rule as JSON. -/
def CustomRule.toJson (r : CustomRule) : Json :=
  .object [("id", .string r.id), ("language", .string r.language), ("pattern", .string r.pattern),
    ("message", .string r.message), ("severity", r.severity.toJson),
    ("line", ofOption .nat r.line)]

/-- A rule from JSON. -/
def CustomRule.ofJson (j : Json) : Decoded CustomRule := do
  let fields ← j.record ["id", "language", "pattern", "message", "severity", "line"]
  return {
    id := ← fields.required "id" asString
    language := ← fields.required "language" asString
    pattern := ← fields.required "pattern" asString
    message := ← fields.required "message" asString
    severity := ← fields.withDefault "severity" .error Severity.ofJson
    line := ← fields.withDefault "line" none (asOption asWord) }

/-- A configuration as JSON. -/
def Config.toJson (c : Config) : Json :=
  .object [("version", .string c.version), ("scoring", c.scoring.toJson),
    ("min_quality", ofOption (fun n => .nat n.toNat) c.minQuality),
    ("excluded_paths", .array (c.excludedPaths.map .string)),
    ("rules", .array (c.rules.map CustomRule.toJson))]

/-- A configuration from JSON. -/
def Config.ofJson (j : Json) : Decoded Config := do
  let fields ← j.record ["version", "scoring", "min_quality", "excluded_paths", "rules"]
  return {
    version := ← fields.withDefault "version" "" asString
    scoring := ← fields.withDefault "scoring" {} Scoring.ofJson
    minQuality := ← fields.withDefault "min_quality" none (asOption asByte)
    excludedPaths := ← fields.withDefault "excluded_paths" [] (asList asString)
    rules := ← fields.withDefault "rules" [] (asList CustomRule.ofJson) }

end SnippetLint
