/-!
# Tables of code points

The character properties of this library are sets of code points, kept as ascending ranges.
A large set is kept as text, one hexadecimal number or range after another, and becomes a table
when it is asked for; `RangeTable.ofText` reads that text.
-/

namespace SnippetLint.Unicode

/-- Code points given by ascending, disjoint ranges; both ends belong to a range. -/
abbrev RangeTable := List (Nat × Nat)

namespace RangeTable

/-- Membership; the search ends at the first range that starts beyond the code point. -/
def contains : RangeTable → Nat → Bool
  | [], _ => false
  | (first, last) :: rest, n =>
    if n < first then false else n ≤ last || contains rest n

/-- A table with a range in front of it that starts no later than the table does. Ranges that
overlap or touch become one. -/
def insertFront (first last : Nat) : RangeTable → RangeTable
  | [] => [(first, last)]
  | (a, b) :: rest =>
    if a ≤ last + 1 then insertFront first (max last b) rest else (first, last) :: (a, b) :: rest

/-- The table of ranges given in any order. -/
def ofRanges (ranges : List (Nat × Nat)) : RangeTable :=
  (ranges.mergeSort fun r s => r.1 ≤ s.1).foldr (fun r t => insertFront r.1 r.2 t) []

/-- The code points of either table. -/
def union (s t : RangeTable) : RangeTable := ofRanges (s ++ t)

/-- The code points of both tables. -/
def inter : RangeTable → RangeTable → RangeTable
  | [], _ => []
  | _, [] => []
  | (a, b) :: s, (c, d) :: t =>
    let rest := if b < d then inter s ((c, d) :: t) else inter ((a, b) :: s) t
    if max a c ≤ min b d then (max a c, min b d) :: rest else rest

/-- The first code point from `n` on that is no surrogate. -/
def skipSurrogates (n : Nat) : Nat := if 0xD800 ≤ n ∧ n ≤ 0xDFFF then 0xE000 else n

/-- The last code point up to `n` that is no surrogate. -/
def skipSurrogatesBack (n : Nat) : Nat := if 0xD800 ≤ n ∧ n ≤ 0xDFFF then 0xD7FF else n

/-- A table with the range from `first` to `last` in front, unless it has no character. -/
def consCharacters (first last : Nat) (t : RangeTable) : RangeTable :=
  if skipSurrogates first ≤ skipSurrogatesBack last then
    (skipSurrogates first, skipSurrogatesBack last) :: t
  else t

/-- The characters from `start` on that a table lacks. -/
def complementFrom (start : Nat) : RangeTable → RangeTable
  | [] => if start ≤ 0x10FFFF then consCharacters start 0x10FFFF [] else []
  | (first, last) :: rest =>
    if start < first then consCharacters start (first - 1) (complementFrom (last + 1) rest)
    else complementFrom (last + 1) rest

/-- The characters that a table lacks. -/
def complement (t : RangeTable) : RangeTable := complementFrom 0 t

/-- The range between two neighbours of a table, the first of which ends with `last` and the second
of which starts with `first`. If no character is between them, it has these two ends. -/
def between (last first : Nat) : Nat × Nat :=
  let low := skipSurrogates (last + 1)
  let high := skipSurrogatesBack (first - 1)
  (min low high, max low high)

/-- The ranges between the neighbours of a table whose first range ends with `last`, and the range
after them. -/
def gaps (last : Nat) : RangeTable → RangeTable
  | [] => consCharacters (last + 1) 0x10FFFF []
  | (a, b) :: rest => between last a :: gaps b rest

/-- Whether there is no character between two neighbours of a table. -/
def hasClosedGap : RangeTable → Bool
  | (_, b) :: (c, d) :: rest => skipSurrogates (b + 1) == c || hasClosedGap ((c, d) :: rest)
  | _ => false

/-- The ranges before, between and after those of a table. If there is a character between any two
neighbours, these are the characters that the table lacks. -/
def outside : RangeTable → RangeTable
  | [] => [(0, 0x10FFFF)]
  | (a, b) :: rest => if a = 0 then gaps b rest else (0, skipSurrogatesBack (a - 1)) :: gaps b rest

/-- The value of a hexadecimal digit, counting every other character as zero. -/
def hexDigitValue (c : Char) : Nat :=
  if c.isDigit then c.toNat - '0'.toNat
  else if 'A' ≤ c ∧ c ≤ 'F' then c.toNat - 'A'.toNat + 10
  else 0

/-- A table half read from text: the number being read, the start of its range if that has been
seen, and the finished ranges, last first. -/
structure Reading where
  number : Option Nat
  start : Option Nat
  ranges : RangeTable

/-- Ends the number being read, and with it a range. -/
def Reading.close (r : Reading) : Reading :=
  match r.number with
  | none => r
  | some n => ⟨none, none, (r.start.getD n, n) :: r.ranges⟩

/-- Takes one more character: a dash ends the start of a range, a blank or the end of a line ends a
range. -/
def Reading.take (r : Reading) (c : Char) : Reading :=
  if c = '-' then { r with number := none, start := r.number }
  else if c = ' ' ∨ c = '\n' then r.close
  else { r with number := some (r.number.getD 0 * 16 + hexDigitValue c) }

/-- Reads a table such as `41-5A C0-D6 100`. -/
def ofText (text : String) : RangeTable :=
  (text.toList.foldl Reading.take ⟨none, none, []⟩).close.ranges.reverse

end RangeTable

end SnippetLint.Unicode
