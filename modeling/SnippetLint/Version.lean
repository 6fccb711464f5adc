/-!
# Name and version of the program
-/

namespace SnippetLint

/-- The name of the program. -/
def programName : String := "snipcheck"

/-- The version of the program. -/
def programVersion : String := "0.1.0"

end SnippetLint
