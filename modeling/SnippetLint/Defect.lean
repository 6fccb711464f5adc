import SnippetLint.Language

/-!
# Defects

A defect is one finding of a rule in a snippet. The wording of its message decides its category,
and the category the explanations that go with it; so a rule of one's own with familiar wording
gets the same explanations as a built-in one.
-/

namespace SnippetLint

/-- How grave a defect is. -/
inductive Severity
  | error
  | warning
  | info
  deriving Repr, DecidableEq

namespace Severity

/-- Every severity, gravest first. -/
def all : List Severity := [error, warning, info]

/-- The name of a severity. -/
def name : Severity → String
  | error => "error"
  | warning => "warning"
  | info => "info"

end Severity

/-- What a defect is about. -/
inductive Category
  | missingReturn
  | debugPrint
  | varUsage
  | unclosedTag
  | missingSemicolon
  | other
  deriving Repr, DecidableEq

namespace Category

/-- Every category, in the order in which a message is tried against them. -/
def all : List Category :=
  [missingReturn, debugPrint, varUsage, unclosedTag, missingSemicolon, other]

/-- The name of a category. -/
def name : Category → String
  | missingReturn => "missing_return"
  | debugPrint => "debug_print"
  | varUsage => "var_usage"
  | unclosedTag => "unclosed_tag"
  | missingSemicolon => "missing_semicolon"
  | other => "other"

/-- What a summary says about a category. -/
def describe : Category → String
  | missingReturn => "missing return statements"
  | debugPrint => "leftover debug print statements"
  | varUsage => "function-scoped var declarations"
  | unclosedTag => "unclosed tags"
  | missingSemicolon => "missing semicolons"
  | other => "general code structure"

/-- The lower case texts that put a message into a category. -/
def needles : Category → List String
  | missingReturn => ["return statement"]
  | debugPrint => ["console.log", "print", "cout", "printf"]
  | varUsage => ["var"]
  | unclosedTag => ["unclosed"]
  | missingSemicolon => ["semicolon"]
  | other => []

/-- The category of a message: the first one of which a needle occurs in it, whatever its case. -/
def classify (message : String) : Category :=
  let lower := Unicode.lowercase message.toList
  (all.find? fun c => c.needles.any fun n => Text.contains n.toList lower).getD other

/-- What to do about a message of a category in a language. -/
def suggestion (category : Category) (language : Option Language) : String :=
  match category with
  | missingReturn =>
    match language with
    | some .python =>
      "Add \"return a + b\" at the end of your function to return the calculated value."
    | some .javaScript | some .java | some .cpp | some .c =>
      "Add \"return a + b;\" at the end of your function to return the calculated value."
    | _ => "Add a return statement to return the calculated value."
  | debugPrint => "Remove debug statements before production or use a proper logging library."
  | varUsage =>
    "Replace \"var\" with \"let\" for block-scoped variables or \"const\" for constants."
  | unclosedTag => "Add the missing closing tag to properly structure your HTML."
  | missingSemicolon => "Add a semicolon (;) at the end of the CSS property declaration."
  | other => "Review the code structure and fix the identified issue."

/-- What a defect of a category leads to. -/
def consequence : Category → String
  | missingReturn =>
    "The function will return undefined instead of the expected calculated value, causing " ++
      "unexpected behavior in your application."
  | debugPrint =>
    "Debug statements will clutter the output and may expose sensitive information in production."
  | varUsage =>
    "Using \"var\" can lead to scope-related bugs and unexpected variable hoisting behavior."
  | unclosedTag =>
    "Unclosed tags will break the HTML structure and may cause layout issues or invalid markup."
  | missingSemicolon =>
    "Missing semicolons can cause CSS properties to be ignored and styling to not work as expected."
  | other => "This issue may cause runtime errors or unexpected behavior in your application."

end Category

/-- One finding of a rule in a snippet. -/
structure Defect where
  /-- The identifier of the rule. -/
  rule : String
  line : Nat
  severity : Severity
  message : String
  suggestion : String
  consequence : String
  deriving Repr, DecidableEq

/-- What a defect is about. -/
def Defect.category (d : Defect) : Category := .classify d.message

end SnippetLint
