import SnippetLint.Unicode.RangeTable

/-!
# Characters as sequences of byte ranges

The UTF-8 forms of the characters of a range, as few sequences as possible of ranges of bytes: a
form belongs to a sequence if each of its bytes is in the range at its place. The forms of
`U+0080` to `U+07FF`, for instance, are the one sequence `C2-DF 80-BF`.
-/

namespace SnippetLint.Pattern

open Unicode

/-- The bytes from one to another. -/
structure ByteRange where
  first : UInt8
  last : UInt8
  deriving Repr, DecidableEq

namespace ByteRange

/-- The ranges between two UTF-8 forms of the same length. -/
def between (first last : Nat) : List ByteRange :=
  List.zipWith ByteRange.mk (String.utf8EncodeChar (.ofNat first))
    (String.utf8EncodeChar (.ofNat last))

/-- Cuts the code points `first` to `last` so that in each part every byte runs through a range of
its own. One more byte runs freely inside a block of `block` code points; within the smaller blocks
all cuts have been made, and `rest` sizes of blocks are left. -/
def cut (rest block first last : Nat) : List (Nat × Nat) :=
  match rest with
  | 0 => [(first, last)]
  | rest + 1 =>
    if first / block = last / block then [(first, last)]
    else
      let start := if first % block = 0 then first else (first / block + 1) * block
      let stop := if last % block = block - 1 then last + 1 else last / block * block
      (if start = first then [] else [(first, start - 1)]) ++
        (if start < stop then cut rest (block * 64) start (stop - 1) else []) ++
        (if stop = last + 1 then [] else [(stop, last)])

/-- The code points with a UTF-8 form of one byte, two, three and four bytes, without the
surrogates, each with the number of bytes after the first. -/
def lengthBlocks : List (Nat × Nat × Nat) :=
  [(0, 0, 0x7F), (1, 0x80, 0x7FF), (2, 0x800, 0xD7FF), (2, 0xE000, 0xFFFF), (3, 0x10000, 0x10FFFF)]

/-- The sequences of the characters from `first` to `last`, lowest first. -/
def sequences (first last : Nat) : List (List ByteRange) :=
  lengthBlocks.flatMap fun (rest, low, high) =>
    if max first low ≤ min last high then
      (cut rest 64 (max first low) (min last high)).map fun (a, b) => between a b
    else []

/-- The sequences of the characters of a table, lowest first. -/
def sequencesOf (t : RangeTable) : List (List ByteRange) :=
  t.flatMap fun (first, last) => sequences first last

end ByteRange

end SnippetLint.Pattern
