import SnippetLint.Glob.Token
import SnippetLint.Text.CodePoint

/-!
# Globs as regular expressions

The text of the regular expression that matches the bytes of the paths of a glob. A byte beyond
ASCII is written by its number, and a character with a meaning of its own has a backslash before
it. `depth` says how deeply the parts of that text are nested.
-/

namespace SnippetLint.Glob

/-- Whether a character has a meaning of its own in a regular expression. -/
def hasMeaning (c : Char) : Bool :=
  ['\\', '.', '+', '*', '?', '(', ')', '|', '[', ']', '\x7b', '\x7d', '^', '$', '#', '&', '-',
    '~'].contains c

/-- What is written for a byte. -/
def writtenByte (b : Char) : List Char :=
  if 0x80 ≤ b.val then '\\' :: 'x' :: Text.hexadecimal b.toNat
  else if hasMeaning b then ['\\', b]
  else [b]

/-- What is written for a character that stands for itself. -/
def writtenChar (c : Char) : List Char := (bytesOf c).flatMap writtenByte

/-- What is written for a range of a class. -/
def writtenRange (first last : Char) : List Char :=
  if first = last then writtenChar first else writtenChar first ++ '-' :: writtenChar last

mutual

/-- What is written for a token. -/
def Token.written : Token → List Char
  | .literal c => writtenChar c
  | .anyByte => ['.']
  | .anyRun => ['.', '*']
  | .leading => "(?:/?|.*/)".toList
  | .trailing => "/.*".toList
  | .between => "(?:/|/.*/)".toList
  | .oneOf negated ranges =>
    let members := ranges.flatMap fun (first, last) => writtenRange first last
    '[' :: (if negated then ['^'] else []) ++ members ++ [']']
  | .choice alternatives =>
    match writtenBranches alternatives with
    | [] => []
    | parts => "(?:".toList ++ ['|'].intercalate parts ++ [')']

/-- What is written for a sequence. -/
def writtenTokens : List Token → List Char
  | [] => []
  | t :: ts => t.written ++ writtenTokens ts

/-- What is written for each of some alternatives, without those that nothing is written for. -/
def writtenBranches : List (List Token) → List (List Char)
  | [] => []
  | b :: bs =>
    match writtenTokens b with
    | [] => writtenBranches bs
    | part => part :: writtenBranches bs

end

/-- What is written for a whole glob. -/
def written (ts : List Token) : List Char :=
  let body := match ts with
    | [.leading] => ['.', '*']
    | _ => writtenTokens ts
  "(?-u)^".toList ++ body ++ ['$']

/-! ## Nesting -/

/-- The number of parts that are written for a token, and the depth of the deepest one. -/
structure Extent where
  parts : Nat
  deepest : Nat

/-- The extent of two sequences one after the other. -/
def Extent.append (a b : Extent) : Extent := ⟨a.parts + b.parts, max a.deepest b.deepest⟩

/-- The depth of a sequence: several parts are a node of their own. -/
def Extent.depth (e : Extent) : Nat := if e.parts ≤ 1 then e.deepest else e.deepest + 1

/-- The number of members of a class that are written for a range: between bytes of its ends there
is one range, and the other bytes stand for themselves. -/
def memberCount (first last : Char) : Nat :=
  if first = last then (bytesOf first).length
  else (bytesOf first).length + (bytesOf last).length - 1

mutual

/-- The extent of what is written for a token. -/
def Token.extent : Token → Extent
  | .literal c => ⟨(bytesOf c).length, 0⟩
  | .anyByte => ⟨1, 0⟩
  | .anyRun => ⟨1, 1⟩
  | .leading | .between => ⟨1, 4⟩
  | .trailing => ⟨2, 1⟩
  | .oneOf _ ranges =>
    let members := ranges.foldl (fun n (first, last) => n + memberCount first last) 0
    ⟨1, if members ≤ 1 then 1 else 2⟩
  | .choice alternatives =>
    match depthsOfBranches alternatives with
    | [] => ⟨0, 0⟩
    | [depth] => ⟨1, depth + 1⟩
    | depths => ⟨1, depths.foldl max 0 + 2⟩

/-- The extent of what is written for a sequence. -/
def extentOfTokens : List Token → Extent
  | [] => ⟨0, 0⟩
  | t :: ts => t.extent.append (extentOfTokens ts)

/-- The depths of alternatives, without those that nothing is written for. -/
def depthsOfBranches : List (List Token) → List Nat
  | [] => []
  | b :: bs =>
    let extent := extentOfTokens b
    if extent.parts = 0 then depthsOfBranches bs else extent.depth :: depthsOfBranches bs

end

/-- How deeply the parts of what is written for a whole glob are nested. -/
def depth (ts : List Token) : Nat := (extentOfTokens ts).deepest + 1

end SnippetLint.Glob
