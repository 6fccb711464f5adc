import SnippetLint.Unicode.Binary
import SnippetLint.Unicode.Property

/-!
# Printable characters

A character is printable if it is assigned and neither a control, a format, a private use nor a
separator character; of the separators the space alone is printable. A combining character does not
stand by itself, so it is not shown by itself either.

The tables of categories and properties are those of edition 16.0 of the standard. What can be shown
is decided by edition 17.0, so the characters that this one adds are listed here.
-/

namespace SnippetLint.Unicode

/-- The printable characters that edition 17.0 adds. -/
def addedPrintable : RangeTable := .ofText
  "88F C5C CDC 1ACF-1ADD 1AE0-1AEB 20C1 2B96 A7CE-A7CF A7D2 A7D4 A7F1 FBC3-FBD2 FD90-FD91
   FDC8-FDCE 10940-10959 10EC5-10EC7 10ED0-10ED8 10EFA-10EFB 11B60-11B67 11DB0-11DDB 11DE0-11DE9
   16EA0-16EB8 16EBB-16ED3 16FF2-16FF6 187F8-187FF 18D09-18D1E 18D80-18DF2 1CCFA-1CCFC
   1CEBA-1CED0 1CEE0-1CEF0 1E6C0-1E6DE 1E6E0-1E6F5 1E6FE-1E6FF 1F6D8 1F777-1F77A 1F8D0-1F8D8
   1FA54-1FA57 1FA8A 1FA8E 1FAC8 1FACD 1FAEA 1FAEF 1FBFA 2B73A-2B73F 2CEA2-2CEAD 323B0-33479"

/-- The characters that extend the one before them and that edition 17.0 adds. -/
def addedExtenders : RangeTable := .ofText
  "1ACF-1ADD 1AE0-1AEB 10EFA-10EFB 11B60 11B62-11B64 11B66 1E6E3 1E6E6 1E6EE-1E6EF 1E6F5"

/-- The tables of printable characters, the space apart. -/
def printableTables : List RangeTable :=
  addedPrintable ::
    tablesWhere categories fun n => ["Cc", "Cf", "Co", "Zl", "Zp", "Zs"].all (· != n)

/-- The characters that extend the one before them. -/
def extendTable : RangeTable :=
  .ofText ((binaryProperties.lookup "Gr_Ext Grapheme_Extend").getD "")

/-- A character that can be shown. -/
def isPrintable (c : Char) : Bool :=
  if c.val < 0x80 then 0x20 ≤ c.val && c.val != 0x7F
  else printableTables.any (·.contains c.toNat)

/-- A character that extends the one before it. -/
def isExtender (c : Char) : Bool :=
  0x80 ≤ c.val && (extendTable.contains c.toNat || addedExtenders.contains c.toNat)

end SnippetLint.Unicode
