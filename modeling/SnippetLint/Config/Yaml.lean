import SnippetLint.Config.Basic
import SnippetLint.Yaml.Decode

/-!
# Configurations as YAML

The text of a configuration file. As in JSON every field may be left out, and a field without a
value counts as left out.
-/

namespace SnippetLint

open Yaml Value

/-- Scoring parameters from YAML. -/
def Scoring.ofYaml (v : Value) : Decoded Scoring := do
  let fields ← v.record ["clean_score", "baseline", "penalty"]
  return {
    cleanScore := ← fields.withDefault "clean_score" ({} : Scoring).cleanScore asByte
    baseline := ← fields.withDefault "baseline" ({} : Scoring).baseline asByte
    penalty := ← fields.withDefault "penalty" ({} : Scoring).penalty asByte }

/-- A severity from YAML. -/
def Severity.ofYaml : Value → Decoded Severity := asName all name

/-- A rule from YAML. -/
def CustomRule.ofYaml (v : Value) : Decoded CustomRule := do
  let fields ← v.record ["id", "language", "pattern", "message", "severity", "line"]
  return {
    id := ← fields.required "id" asText
    language := ← fields.required "language" asText
    pattern := ← fields.required "pattern" asText
    message := ← fields.required "message" asText
    severity := ← fields.withDefault "severity" .error Severity.ofYaml
    line := ← fields.withDefault "line" none (asOption asWord) }

/-- A configuration from YAML. -/
def Config.ofYaml (v : Value) : Decoded Config := do
  let fields ← v.record ["version", "scoring", "min_quality", "excluded_paths", "rules"]
  return {
    version := ← fields.withDefault "version" "" asText
    scoring := ← fields.withDefault "scoring" {} Scoring.ofYaml
    minQuality := ← fields.withDefault "min_quality" none (asOption asByte)
    excludedPaths := ← fields.withDefault "excluded_paths" [] (asList asText)
    rules := ← fields.withDefault "rules" [] (asList CustomRule.ofYaml) }

/-- The configuration that a text holds. -/
def Config.ofYamlText (text : String) : Except YamlError Config := do
  (← Document.ofText text.toList).decode ofYaml

end SnippetLint
