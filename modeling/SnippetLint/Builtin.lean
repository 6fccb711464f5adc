import SnippetLint.Catalogue

/-!
# Built-in rules

The rules that are there without any configuration. They are coarse on purpose: a function whose
last statement is `return x;` is still taken for one without a return statement, since the
pattern looks at single characters of the body only. Above each rule stands its pattern in the
usual notation.
-/

namespace SnippetLint.Builtin

open Pattern Regex

/-- One or more blanks, `\s+`. -/
def blanks : PlainRegex := (oneOf .blank).plus true

/-- Any number of blanks, `\s*`. -/
def optionalBlanks : PlainRegex := (oneOf .blank).star true

/-- One or more word characters, `\w+`. -/
def word : PlainRegex := (oneOf .word).plus true

/-- One or more characters outside a list. -/
def someExcept (members : List Char) : PlainRegex := (oneOf (.except members)).plus true

/-- Any number of characters outside a list. -/
def anyExcept (members : List Char) : PlainRegex := (oneOf (.except members)).star true

/-- A parameter list in parentheses, `\([^)]*\)`. -/
def parameters : PlainRegex := seq [text "(", anyExcept [')'], text ")"]

/-- The body of a function in braces up to a character that belongs neither to a `return` nor to
the end of the body: `\s*\{[^}]*[^}return]`. -/
def bodyWithoutReturn : PlainRegex :=
  seq [optionalBlanks, text "\x7b", anyExcept ['\x7d'],
    oneOf (.except ['\x7d', 'r', 'e', 't', 'u', 'n'])]

/-- A rule that reports an error at a fixed line. -/
def rule (id message : String) (line : Nat) (matcher : Matcher) : Rule :=
  { id, message, severity := .error, line := .fixed line, matcher }

/-- `function\s+\w+\([^)]*\)\s*\{[^}]*[^}return]` -/
def javaScriptFunction : PlainRegex :=
  seq [text "function", blanks, word, parameters, bodyWithoutReturn]

/-- `console\.log\s*\(` -/
def consoleLog : PlainRegex := seq [text "console.log", optionalBlanks, text "("]

/-- `var\s+` -/
def varDeclaration : PlainRegex := seq [text "var", blanks]

/-- `(?m)def\s+\w+\([^)]*\):[^return]*$` -/
def pythonFunction : PlainRegex :=
  seq [text "def", blanks, word, parameters, text ":", anyExcept ['r', 'e', 't', 'u', 'n'],
    look (.lineEnd false)]

/-- `print\s*\(` -/
def pythonPrint : PlainRegex := seq [text "print", optionalBlanks, text "("]

/-- `public\s+static\s+\w+\s+\w+\([^)]*\)\s*\{[^}]*[^}return]` -/
def javaMethod : PlainRegex :=
  seq [text "public", blanks, text "static", blanks, word, blanks, word, parameters,
    bodyWithoutReturn]

/-- `System\.out\.print` -/
def javaPrint : PlainRegex := text "System.out.print"

/-- `\w+\s+\w+\([^)]*\)\s*\{[^}]*[^}return]` -/
def cFunction : PlainRegex := seq [word, blanks, word, parameters, bodyWithoutReturn]

/-- `cout\s*<<` -/
def cppPrint : PlainRegex := seq [text "cout", optionalBlanks, text "<<"]

/-- `printf\s*\(` -/
def cPrint : PlainRegex := seq [text "printf", optionalBlanks, text "("]

/-- `<div[^>]*>` -/
def openDiv : PlainRegex := seq [text "<div", anyExcept ['>'], text ">"]

/-- `</div>` -/
def closeDiv : PlainRegex := text "</div>"

/-- `<\w+[^>]*>` -/
def openTag : PlainRegex := seq [text "<", word, anyExcept ['>'], text ">"]

/-- `</\w+>` -/
def closeTag : PlainRegex := seq [text "</", word, text ">"]

/-- `[^;{}]+:[^;{}]+` -/
def cssDeclaration : PlainRegex :=
  seq [someExcept [';', '\x7b', '\x7d'], text ":", someExcept [';', '\x7b', '\x7d']]

/-- `text-shadow\s*:\s*[^;]*[^;]` -/
def cssTextShadow : PlainRegex :=
  seq [text "text-shadow", optionalBlanks, text ":", optionalBlanks, anyExcept [';'],
    oneOf (.except [';'])]

/-- The built-in rules, language by language. -/
def rules : List (Language × Rule) := [
  (.javaScript,
    rule "missing-return" "Function missing return statement" 2 (.pattern javaScriptFunction)),
  (.javaScript, rule "debug-print" "Console.log statement found" 6 (.pattern consoleLog)),
  (.javaScript, rule "var-usage" "Use let or const instead of var" 5 (.pattern varDeclaration)),
  (.python,
    rule "missing-return" "Function missing return statement" 2 (.pattern pythonFunction)),
  (.python, rule "debug-print" "Print statement found" 4 (.pattern pythonPrint)),
  (.java, rule "missing-return" "Method missing return statement" 2 (.pattern javaMethod)),
  (.java, rule "debug-print" "System.out.print statement found" 7 (.pattern javaPrint)),
  (.cpp, rule "missing-return" "Function missing return statement" 5 (.pattern cFunction)),
  (.cpp, rule "debug-print" "cout statement found" 9 (.pattern cppPrint)),
  (.c, rule "missing-return" "Function missing return statement" 5 (.pattern cFunction)),
  (.c, rule "debug-print" "printf statement found" 9 (.pattern cPrint)),
  (.html, rule "unclosed-div" "Unclosed div tag" 8 (.unclosedTag openDiv closeDiv)),
  (.html, rule "unclosed-tag" "Unclosed HTML tag" 9 (.unclosedTag openTag closeTag)),
  (.css,
    rule "missing-semicolon" "Missing semicolon in CSS property" 5 (.pattern cssDeclaration)),
  (.css, rule "text-shadow" "Invalid text-shadow syntax" 8 (.pattern cssTextShadow))]

end SnippetLint.Builtin

namespace SnippetLint

/-- The catalogue of the built-in rules. -/
def Catalogue.builtin : Catalogue := ⟨Builtin.rules⟩

end SnippetLint
