import SnippetLint.Unicode.Blank

/-!
# Operations on texts

Texts are worked on as lists of characters. This module holds what several parts of the library
need of them: blanks at the ends, parts between separators, occurrences of one text in another,
padding and decimal numbers.
-/

namespace SnippetLint.Text

open Unicode

/-- A text without the blanks at its ends. -/
def trim (s : List Char) : List Char :=
  ((s.dropWhile isBlank).reverse.dropWhile isBlank).reverse

/-- Whether a text has nothing but blanks. -/
def isBlankText (s : List Char) : Bool := s.all isBlank

/-- Whether `needle` occurs in a text. -/
def contains (needle : List Char) : List Char → Bool
  | [] => needle.isEmpty
  | c :: rest => needle.isPrefixOf (c :: rest) || contains needle rest

/-- The parts of a text between the occurrences of a separator; there is one more of them than
separators. -/
def splitAt (separator : Char) : List Char → List (List Char)
  | [] => [[]]
  | c :: rest =>
    match splitAt separator rest with
    | [] => [[c]]
    | part :: parts => if c = separator then [] :: part :: parts else (c :: part) :: parts

/-- There is a part at least. -/
theorem splitAt_ne_nil (separator : Char) (s : List Char) : splitAt separator s ≠ [] := by
  induction s with
  | nil => simp [splitAt]
  | cons c rest ih =>
    rw [splitAt]
    split
    · simp
    · split <;> simp

/-- The number of lines of a text. A line feed ends a line; a last line need not have one. -/
def lineCount (s : List Char) : Nat :=
  s.count '\n' + (if s.getLast?.all (· == '\n') then 0 else 1)

/-- A text filled up with blanks to a width. -/
def padRight (width : Nat) (s : List Char) : List Char :=
  s ++ List.replicate (width - s.length) ' '

/-- The decimal digit of a number below ten. -/
def decimalDigit (n : Nat) : Char := Char.ofNat ('0'.toNat + n)

/-- A number in decimal digits. -/
def decimal (n : Nat) : List Char :=
  if n < 10 then [decimalDigit n] else decimal (n / 10) ++ [decimalDigit (n % 10)]

end SnippetLint.Text

namespace SnippetLint

/-- A text without the blanks at its ends. -/
def trimmed (s : String) : String := .ofList (Text.trim s.toList)

/-- Whether a text has nothing but blanks. -/
def isBlankText (s : String) : Bool := Text.isBlankText s.toList

/-- A number in decimal digits. -/
def decimal (n : Nat) : String := .ofList (Text.decimal n)

/-- A text of lines, each with its line feed. -/
def textOfLines (ls : List String) : String := String.join (ls.map (·.push '\n'))

end SnippetLint
