import SnippetLint.Template.Bundled
import SnippetLint.Text.Basic

/-!
# Generation of code

A prompt selects a template by the first keyword that occurs in it, and the text of that template
is the generated code. A language without templates gets a placeholder.
-/

namespace SnippetLint

/-- The keywords that select a template, each with the name of that template. -/
def templateKeywords : List (String × String) := [("factorial", "factorial"), ("todo", "todo")]

/-- The name of the template that a prompt selects. -/
def selectTemplate (prompt : String) : String :=
  let lower := Unicode.lowercase prompt.toList
  match templateKeywords.find? fun (keyword, _) => Text.contains keyword.toList lower with
  | some (_, name) => name
  | none => Template.defaultName

/-- What is generated in a language without templates. -/
def placeholder (prompt language : String) : String :=
  "// Generated " ++ language ++ " code for: " ++ prompt ++ "\n" ++ textOfLines [
    "// This is a placeholder implementation",
    "// In a real application, this would be generated by an AI model",
    "",
    "int main() \x7b",
    "    // Your code implementation here",
    "    return 0;",
    "\x7d"]

namespace TemplateStore

/-- The template that a prompt selects in the language that a text names. -/
def select? (s : TemplateStore) (prompt language : String) : Option Template :=
  ((Language.parse? language).bind s.templatesFor?).map (·.get (selectTemplate prompt))

/-- The code for a prompt in the language that a text names. -/
def generate (s : TemplateStore) (prompt language : String) : String :=
  match s.select? prompt language with
  | some template => template.body
  | none => placeholder prompt (trimmed language)

end TemplateStore

end SnippetLint
