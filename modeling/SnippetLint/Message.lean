/-!
# Messages

What is said about an error. The cause of some errors is told by the part of the library that
found it, such as the reader of patterns; that part of a message is kept apart as its detail.
-/

namespace SnippetLint

/-- A text and, if the cause of an error is told after it, that cause. -/
structure Message where
  text : String
  detail : Option String := none
  deriving Repr, DecidableEq

namespace Message

/-- All of a message. -/
def full (m : Message) : String := m.text ++ m.detail.getD ""

/-- A message about something that went wrong while something else was done. -/
def within (m : Message) (context : String) : Message :=
  { m with text := context ++ ": " ++ m.text }

end Message

end SnippetLint
