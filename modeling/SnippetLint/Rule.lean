import SnippetLint.Defect
import SnippetLint.Pattern.Search

/-!
# Rules

A rule looks for one kind of defect in a whole snippet. It takes no notice of the syntax of the
language, and reports a defect once, however often its pattern occurs.
-/

namespace SnippetLint

open Pattern

/-- What a rule looks for. -/
inductive Matcher
  /-- An occurrence of a pattern. -/
  | pattern (pattern : PlainRegex)
  /-- An occurrence of an opening tag without a closing tag on the rest of its line. -/
  | unclosedTag (opening closing : PlainRegex)

namespace Matcher

/-- The place where the first thing that a rule looks for starts. Opening tags are looked at one
after another, each after the end of the one before; the rest of a line is a text of its own. -/
def firstMatch? (m : Matcher) (code : List Char) : Option Cursor :=
  match m with
  | pattern p => (p.find? code).map (·.start)
  | unclosedTag opening closing =>
    ((opening.findAll code).find? fun span => !closing.occursIn span.stop.lineRest).map (·.start)

end Matcher

/-- The line that a rule reports. -/
inductive RuleLine
  /-- The same line, wherever the defect is. -/
  | fixed (line : Nat)
  /-- The line where the first match starts. -/
  | firstMatch
  deriving Repr, DecidableEq

/-- One rule. -/
structure Rule where
  id : String
  message : String
  severity : Severity
  line : RuleLine
  matcher : Matcher

namespace Rule

/-- The line that a rule reports for a snippet, if it finds anything. -/
def evaluate (r : Rule) (code : String) : Option Nat :=
  (r.matcher.firstMatch? code.toList).map fun place =>
    match r.line with
    | .fixed line => line
    | .firstMatch => place.line

/-- The defect that a rule reports for a snippet in a language. -/
def defect? (r : Rule) (code : String) (language : Language) : Option Defect :=
  (r.evaluate code).map fun line =>
    let category := Category.classify r.message
    { rule := r.id, line, severity := r.severity, message := r.message,
      suggestion := category.suggestion (some language), consequence := category.consequence }

end Rule

end SnippetLint
