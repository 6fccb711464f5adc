import SnippetLint.Path
import SnippetLint.Unicode.Lowercase

/-!
# Languages

The languages that snippets can be in. A language is named by a free text, of which case and
surrounding blanks do not matter, and recognized from a file by the extension of its name. A text
that names no language is no error: it only has no rules and no templates.
-/

namespace SnippetLint

/-- A language that there are rules for. -/
inductive Language
  | javaScript
  | python
  | java
  | cpp
  | c
  | html
  | css
  deriving Repr, DecidableEq

namespace Language

/-- Every language, in the order in which they are listed. -/
def all : List Language := [javaScript, python, java, cpp, c, html, css]

/-- No language is missing there. -/
theorem mem_all (l : Language) : l ∈ all := by
  cases l <;> decide

/-- The identifier of a language. -/
def id : Language → String
  | javaScript => "javascript"
  | python => "python"
  | java => "java"
  | cpp => "cpp"
  | c => "c"
  | html => "html"
  | css => "css"

/-- The name of a language for readers. -/
def label : Language → String
  | javaScript => "JavaScript"
  | python => "Python"
  | java => "Java"
  | cpp => "C++"
  | c => "C"
  | html => "HTML"
  | css => "CSS"

/-- The texts that name a language, its identifier first. -/
def names : Language → List String
  | javaScript => ["javascript", "js"]
  | python => ["python", "py"]
  | java => ["java"]
  | cpp => ["cpp", "c++"]
  | c => ["c"]
  | html => ["html"]
  | css => ["css"]

/-- The extensions of the files of a language. -/
def extensions : Language → List String
  | javaScript => ["js", "mjs", "cjs", "jsx"]
  | python => ["py"]
  | java => ["java"]
  | cpp => ["cpp", "cc", "cxx", "hpp"]
  | c => ["c", "h"]
  | html => ["html", "htm"]
  | css => ["css"]

/-- The language that a text names. -/
def parse? (s : String) : Option Language :=
  let name := Unicode.lowercase (Text.trim s.toList)
  all.find? fun l => (l.names.map String.toList).contains name

/-- The language of the files with an extension, of which the case does not matter. -/
def ofExtension? (ext : List Char) : Option Language :=
  let ext := Unicode.lowercase ext
  all.find? fun l => (l.extensions.map String.toList).contains ext

/-- The language of the file that a path leads to. -/
def ofPath? (path : String) : Option Language :=
  (Path.extension? path.toList).bind ofExtension?

/-- The identifier of the language that a text names, or the text itself. -/
def display (s : String) : String := (parse? s).elim s Language.id

end Language

end SnippetLint
