import SnippetLint.Text.CodePoint
import SnippetLint.Unicode.Printable

/-!
# Quoted texts

A text between double quotes, as messages show it. What would be mistaken or not be seen is
written as an escape sequence: the quote, the backslash, and every character that is not
printable or extends the one before it.
-/

namespace SnippetLint.Text.Quoted

/-- What is written for a character between quotes. -/
def encodeChar (c : Char) : List Char :=
  match c with
  | '"' => ['\\', '"']
  | '\\' => ['\\', '\\']
  | '\n' => ['\\', 'n']
  | '\r' => ['\\', 'r']
  | '\t' => ['\\', 't']
  | '\x00' => ['\\', '0']
  | c =>
    if Unicode.isPrintable c && !Unicode.isExtender c then [c]
    else '\\' :: 'u' :: '\x7b' :: hexadecimal c.toNat ++ ['\x7d']

/-- A text between quotes. -/
def encode (s : List Char) : List Char := '"' :: s.flatMap encodeChar ++ ['"']

end SnippetLint.Text.Quoted

namespace SnippetLint

/-- A text between quotes, as messages show it. -/
def quoted (s : String) : String := .ofList (Text.Quoted.encode s.toList)

end SnippetLint
