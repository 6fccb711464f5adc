import SnippetLint.Analysis
import SnippetLint.Generation

/-!
# The assistant

The assistant answers requests to analyze or to generate code, and refuses blank ones. A language
that is not known is no reason to refuse.
-/

namespace SnippetLint

/-- The part of a request that must not be blank. -/
inductive RequestField
  | code
  | prompt
  deriving Repr, DecidableEq

/-- A request is refused because a part of it is blank. -/
structure BlankInput where
  field : RequestField
  deriving Repr, DecidableEq

/-- The name of a part of a request. -/
def RequestField.name : RequestField → String
  | code => "code"
  | prompt => "prompt"

/-- What is said about a refused request. -/
def BlankInput.message (e : BlankInput) : String :=
  "invalid input: " ++ e.field.name ++ " must not be empty"

/-- Rules, scoring and templates, ready for use. -/
structure Assistant where
  analyzer : Analyzer
  templates : TemplateStore

namespace Assistant

/-- The built-in rules and templates with the default scoring. -/
def builtin : Assistant := ⟨.builtin, .bundled⟩

/-- Analyzes code that is not blank. -/
def analyze (a : Assistant) (code language : String) : Except BlankInput Analysis :=
  if isBlankText code then .error ⟨.code⟩ else .ok (a.analyzer.analyze code language)

/-- Generates code for a prompt that is not blank. -/
def generate (a : Assistant) (prompt language : String) : Except BlankInput String :=
  if isBlankText prompt then .error ⟨.prompt⟩ else .ok (a.templates.generate prompt language)

end Assistant

end SnippetLint
