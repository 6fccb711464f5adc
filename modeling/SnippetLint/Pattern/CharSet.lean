import SnippetLint.Unicode.Blank
import SnippetLint.Unicode.CaseFolding
import SnippetLint.Unicode.Property
import SnippetLint.Unicode.Word

/-!
# Sets of characters

The sets that a pattern can ask a character to be in. A set is kept as the way it was written,
so membership follows the operators; nothing is ever enumerated.
-/

namespace SnippetLint.Pattern

/-- A set of characters. -/
inductive CharSet
  /-- The listed characters. -/
  | chars (members : List Char)
  /-- The characters from one to another. -/
  | range (first last : Char)
  /-- The characters with a named property. -/
  | named (set : Unicode.NamedSet)
  /-- The word characters. -/
  | word
  /-- The decimal digits. -/
  | digit
  /-- The white space characters. -/
  | blank
  /-- The characters of a table. -/
  | table (t : Unicode.RangeTable)
  /-- The characters that a set lacks. -/
  | compl (s : CharSet)
  | union (s t : CharSet)
  | inter (s t : CharSet)
  | diff (s t : CharSet)
  /-- The characters in exactly one of two sets. -/
  | symmDiff (s t : CharSet)
  /-- The characters that are the same up to case as a member of a set. -/
  | anyCase (s : CharSet)

namespace CharSet

/-- The members of a set as a table. -/
def toTable : CharSet → Unicode.RangeTable
  | chars members => .ofRanges (members.map fun c => (c.toNat, c.toNat))
  | range first last => [(first.toNat, last.toNat)]
  | named set => set.toTable
  | word =>
    .ofRanges ([(0x30, 0x39), (0x41, 0x5A), (0x5F, 0x5F), (0x61, 0x7A)] ++ Unicode.wordTable)
  | digit => (0x30, 0x39) :: Unicode.digitTable
  | blank => Unicode.blankTable
  | table t => t
  | compl s => s.toTable.complement
  | union s t => s.toTable.union t.toTable
  | inter s t => s.toTable.inter t.toTable
  | diff s t => s.toTable.inter t.toTable.complement
  | symmDiff s t =>
    let both := s.toTable.inter t.toTable
    (s.toTable.union t.toTable).inter both.complement
  | anyCase s => Unicode.caseClosure s.toTable

/-- Membership. -/
def contains : CharSet → Char → Bool
  | chars members, c => members.contains c
  | range first last, c => first ≤ c && c ≤ last
  | named set, c => set.contains c
  | word, c => Unicode.isWord c
  | digit, c => Unicode.isDigit c
  | blank, c => Unicode.isBlank c
  | table t, c => t.contains c.toNat
  | compl s, c => !s.contains c
  | union s t, c => s.contains c || t.contains c
  | inter s t, c => s.contains c && t.contains c
  | diff s t, c => s.contains c && !t.contains c
  | symmDiff s t, c => s.contains c != t.contains c
  | anyCase s, c => (Unicode.caseVariants c).any s.contains

/-- The set of a negated class: the characters that are outside the ranges of a set. The ends of two
ranges with nothing but surrogates between them belong to both sets. -/
def negate (s : CharSet) : CharSet :=
  if s.toTable.hasClosedGap then table s.toTable.outside else compl s

/-- The set without members. -/
def none : CharSet := chars []

/-- The set of one character. -/
def single (c : Char) : CharSet := chars [c]

/-- The characters other than the listed ones. -/
def except (members : List Char) : CharSet := compl (chars members)

/-- The characters that are in one of the sets. -/
def unionAll (sets : List CharSet) : CharSet := sets.foldr union none

/-- The ASCII characters. -/
def ascii : CharSet := range '\x00' '\x7f'

/-- The ASCII digits. -/
def asciiDigit : CharSet := range '0' '9'

/-- The ASCII letters. -/
def asciiLetter : CharSet := union (range 'a' 'z') (range 'A' 'Z')

/-- The ASCII letters, digits and the underscore. -/
def asciiWord : CharSet := unionAll [asciiDigit, asciiLetter, single '_']

/-- The ASCII white space characters. -/
def asciiBlank : CharSet := chars ['\t', '\n', '\x0b', '\x0c', '\r', ' ']

end CharSet

end SnippetLint.Pattern
