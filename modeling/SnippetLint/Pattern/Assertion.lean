import SnippetLint.Text.Cursor
import SnippetLint.Unicode.Word

/-!
# Assertions

What a pattern can ask of a place in a text without taking a character. An assertion looks at the
character before the place and at the one after it only.
-/

namespace SnippetLint.Pattern

/-- The side of a word that a place is asked to be at. -/
inductive WordEdge
  /-- Between a word character and none. -/
  | either
  /-- Between two word characters or between none. -/
  | neither
  /-- Before a word. -/
  | start
  /-- After a word. -/
  | stop
  /-- Not after a word character. -/
  | startHalf
  /-- Not before a word character. -/
  | stopHalf
  deriving Repr, DecidableEq

/-- A condition on a place. -/
inductive Assertion
  | textStart
  | textEnd
  /-- The start of a line; with `crlf`, a carriage return ends a line as well as a line feed, and
  both together end one line. -/
  | lineStart (crlf : Bool)
  /-- The end of a line. -/
  | lineEnd (crlf : Bool)
  /-- The side of a word, of ASCII characters only or of any script. -/
  | word (edge : WordEdge) (asciiOnly : Bool)
  deriving Repr, DecidableEq

/-- Whether a place with a word character before it, or after it, is at the side of a word. -/
def WordEdge.holds (edge : WordEdge) (before after : Bool) : Bool :=
  match edge with
  | either => before != after
  | neither => before == after
  | start => !before && after
  | stop => before && !after
  | startHalf => !before
  | stopHalf => !after

/-- Whether an assertion holds between two characters; there is none before the start and after
the end of a text. -/
def Assertion.holdsBetween (a : Assertion) (before after : Option Char) : Bool :=
  match a with
  | textStart => before.isNone
  | textEnd => after.isNone
  | lineStart false => before.isNone || before == some '\n'
  | lineStart true =>
    before.isNone || before == some '\n' || (before == some '\r' && after != some '\n')
  | lineEnd false => after.isNone || after == some '\n'
  | lineEnd true =>
    after.isNone || after == some '\r' || (after == some '\n' && before != some '\r')
  | word edge asciiOnly =>
    let isWord := if asciiOnly then Unicode.isAsciiWord else Unicode.isWord
    edge.holds (before.any isWord) (after.any isWord)

/-- Whether an assertion holds at a place. -/
def Assertion.holds (a : Assertion) (cur : Cursor) : Bool := a.holdsBetween cur.before cur.after

end SnippetLint.Pattern
