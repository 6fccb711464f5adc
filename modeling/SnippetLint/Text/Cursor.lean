/-!
# Places in a text

A cursor stands between two characters of a text, before the first one or after the last. It
knows the character before it and the text after it, which is all that matching looks at, and
counts the bytes of the UTF-8 form before it and the lines. A line ends with a line feed and with
nothing else.
-/

namespace SnippetLint

/-- A place in a text: the character before it, the text after it, the number of bytes before it,
and the number of its line, which is one more than the number of line feeds before it. -/
structure Cursor where
  before : Option Char
  rest : List Char
  offset : Nat
  line : Nat
  deriving Repr, DecidableEq

namespace Cursor

/-- The place before a text. -/
def start (text : List Char) : Cursor := ⟨none, text, 0, 1⟩

/-- The place after a character: `rest` is the text that follows the character. -/
def past (cur : Cursor) (c : Char) (rest : List Char) : Cursor :=
  ⟨some c, rest, cur.offset + c.utf8Size, if c = '\n' then cur.line + 1 else cur.line⟩

/-- The character after a place. -/
def after (cur : Cursor) : Option Char := cur.rest.head?

/-- What follows on the same line. -/
def lineRest (cur : Cursor) : List Char := cur.rest.takeWhile (· != '\n')

/-- The places of the text `rest` that follows `cur`, put in front of `seen`, last place first. -/
def trailOnto (seen : List Cursor) (cur : Cursor) : List Char → List Cursor
  | [] => cur :: seen
  | c :: rest => trailOnto (cur :: seen) (cur.past c rest) rest

/-- All places of a text, last place first. -/
def trail (text : List Char) : List Cursor := trailOnto [] (start text) text

end Cursor

end SnippetLint
