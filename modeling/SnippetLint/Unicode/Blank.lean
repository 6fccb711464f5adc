import SnippetLint.Unicode.RangeTable

/-!
# White space

The characters with the White_Space property. The separators of the ASCII control block
(U+001C to U+001F), the zero-width space and the byte order mark are not among them.
-/

namespace SnippetLint.Unicode

/-- The characters with the White_Space property. -/
def blankTable : RangeTable :=
  [(0x9, 0xD), (0x20, 0x20), (0x85, 0x85), (0xA0, 0xA0), (0x1680, 0x1680), (0x2000, 0x200A),
   (0x2028, 0x2029), (0x202F, 0x202F), (0x205F, 0x205F), (0x3000, 0x3000)]

/-- A white space character. -/
def isBlank (c : Char) : Bool := blankTable.contains c.toNat

end SnippetLint.Unicode
