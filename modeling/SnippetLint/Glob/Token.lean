import SnippetLint.Pattern.Search

/-!
# Globs

A glob is a sequence of tokens and matches whole paths. It is matched byte by byte, so a question
mark or a class stands for one byte of the UTF-8 form of a path; as a regular expression, a byte
is the character with the same number.
-/

namespace SnippetLint.Glob

open Pattern

/-- One token of a glob. -/
inductive Token
  /-- A character as it stands. -/
  | literal (c : Char)
  /-- Any byte. -/
  | anyByte
  /-- Any bytes, slashes among them. -/
  | anyRun
  /-- Any directories at the front, or none. -/
  | leading
  /-- Anything below a directory. -/
  | trailing
  /-- A slash, or any directories between two slashes. -/
  | between
  /-- One byte of a class of characters, or one that is not in it. -/
  | oneOf (negated : Bool) (ranges : List (Char × Char))
  /-- One of several sequences. -/
  | choice (alternatives : List (List Token))

/-- The bytes of the UTF-8 form of a character, each as the character with its number. -/
def bytesOf (c : Char) : List Char :=
  (String.singleton c).toUTF8.toList.map fun b => Char.ofNat b.toNat

/-- The bytes of the UTF-8 form of a text. -/
def bytesOfText (s : List Char) : List Char := s.flatMap bytesOf

/-- Any byte. -/
def anyByteSet : CharSet := .range '\x00' (Char.ofNat 255)

/-- The bytes that a range of characters stands for in a class: the bytes of its first character
and of its last one, and those between the end of the first and the start of the last. -/
def rangeBytes (first last : Char) : CharSet :=
  let low := bytesOf first
  let high := bytesOf last
  if first = last then .chars low
  else .union (.chars (low ++ high)) (.range (low.getLastD '\x00') (high.headD '\x00'))

/-- Any number of any bytes. -/
def anyRunRegex : PlainRegex := (Regex.oneOf anyByteSet).star true

/-- A slash. -/
def slash : PlainRegex := .oneOf (.single '/')

mutual

/-- The regular expression of a token, or none if nothing is written for it. -/
def Token.regex? : Token → Option PlainRegex
  | .literal c => some (.seq ((bytesOf c).map fun b => .oneOf (.single b)))
  | .anyByte => some (.oneOf anyByteSet)
  | .anyRun => some anyRunRegex
  | .leading => some (.alt (slash.optional true) (.cat anyRunRegex slash))
  | .trailing => some (.cat slash anyRunRegex)
  | .between => some (.alt slash (.seq [slash, anyRunRegex, slash]))
  | .oneOf negated ranges =>
    let set := CharSet.unionAll (ranges.map fun (a, b) => rangeBytes a b)
    some (.oneOf (if negated then .inter anyByteSet (.compl set) else set))
  | .choice alternatives => choiceRegex? (branchRegexes alternatives)

/-- The regular expression of a sequence, or none if nothing is written for it. -/
def tokensRegex? : List Token → Option PlainRegex
  | [] => none
  | t :: ts =>
    match t.regex?, tokensRegex? ts with
    | some r, some s => some (.cat r s)
    | some r, none => some r
    | none, s => s

/-- The regular expressions of alternatives. An empty alternative is dropped. -/
def branchRegexes : List (List Token) → List PlainRegex
  | [] => []
  | b :: bs =>
    match tokensRegex? b with
    | some r => r :: branchRegexes bs
    | none => branchRegexes bs

/-- One of several expressions, if there is one. -/
def choiceRegex? : List PlainRegex → Option PlainRegex
  | [] => none
  | r :: rs =>
    match choiceRegex? rs with
    | some s => some (.alt r s)
    | none => some r

end

/-- The regular expression of a whole glob. -/
def tokensRegex (ts : List Token) : PlainRegex :=
  match ts with
  | [.leading] => anyRunRegex
  | _ => (tokensRegex? ts).getD .empty

end SnippetLint.Glob
