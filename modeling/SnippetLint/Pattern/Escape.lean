import SnippetLint.Pattern.Assertion
import SnippetLint.Pattern.CharSet
import SnippetLint.Pattern.Flags
import SnippetLint.Text.CodePoint

/-!
# Escape sequences of a pattern

`readEscape` reads what stands after a backslash: a character, a set of characters or an
assertion.
-/

namespace SnippetLint.Pattern

/-- What one escape sequence, or one other character, of a pattern stands for. -/
inductive Atom
  /-- A character; `byteValued` if it was given by two hexadecimal digits. -/
  | char (c : Char) (byteValued : Bool)
  /-- A set of characters. -/
  | set (s : CharSet)
  /-- An assertion. -/
  | look (a : Assertion)

/-- Whether a backslash before a character takes its meaning away: any ASCII character but letters,
digits and the angle brackets. -/
def isEscapable (c : Char) : Bool :=
  c.val < 0x80 && !c.isAlphanum && c != '<' && c != '>'

/-- The character that hexadecimal digits name. -/
def charOfHex (digits : List Char) : Except PatternError Char :=
  match (Text.hexNumber? digits).bind Text.charOfCodePoint? with
  | some c => .ok c
  | none => .error .badCodePoint

/-- The text up to a closing brace, and the text after it. In a verbose pattern blanks and comments
are left out. -/
def takeBraced (verbose inComment : Bool) (taken : List Char) :
    List Char → Except PatternError (List Char × List Char)
  | [] => .error .unfinishedEscape
  | c :: rest =>
    if verbose && inComment then takeBraced verbose (c != '\n') taken rest
    else if verbose && Unicode.isBlank c then takeBraced verbose false taken rest
    else if verbose && c = '#' then takeBraced verbose true taken rest
    else if c = '}' then .ok (taken.reverse, rest)
    else takeBraced verbose false (c :: taken) rest

/-- Exactly `n` hexadecimal digits; in a verbose pattern blanks may stand between them. -/
def takeHexDigits (verbose : Bool) : Nat → List Char → Except PatternError (List Char × List Char)
  | 0, s => .ok ([], s)
  | n + 1, s =>
    match skipIgnored verbose s with
    | [] => .error .unfinishedEscape
    | c :: rest =>
      if (Text.hexValue? c).isNone then .error .badCodePoint
      else (takeHexDigits verbose n rest).map fun (digits, rest) => (c :: digits, rest)

/-- A character by its code point: `count` hexadecimal digits, or any number of them in braces. -/
def readCodePoint (verbose : Bool) (count : Nat) (s : List Char) :
    Except PatternError (Atom × List Char) :=
  match skipIgnored verbose s with
  | '{' :: rest => do
    let (digits, rest) ← takeBraced verbose false [] rest
    if digits.isEmpty then .error .badCodePoint
    else return (.char (← charOfHex digits) false, rest)
  | s => do
    let (digits, rest) ← takeHexDigits verbose count s
    return (.char (← charOfHex digits) (count == 2), rest)

/-- A text cut at the first occurrence of another, which is left out. -/
def cutAt? (mark : List Char) : List Char → Option (List Char × List Char)
  | [] => none
  | c :: rest =>
    if mark.isPrefixOf (c :: rest) then some ([], (c :: rest).drop mark.length)
    else (cutAt? mark rest).map fun (left, right) => (c :: left, right)

/-- What the text in the braces of `\p` stands for: a name, or a property and a value. With `!=` it
stands for the characters that are not in the set. -/
def propertySet? (name : List Char) : Option (Unicode.NamedSet × Bool) :=
  let value := fun (property value : List Char) =>
    Unicode.valueSet? (.ofList property) (.ofList value)
  match cutAt? ['!', '='] name with
  | some (left, right) => (value left right).map (·, true)
  | none =>
    match cutAt? [':'] name <|> cutAt? ['='] name with
    | some (left, right) => (value left right).map (·, false)
    | none => (Unicode.namedSet? (.ofList name)).map (·, false)

/-- A set with regard to the flag that ignores case. -/
def Flags.withCase (flags : Flags) (s : CharSet) : CharSet :=
  if flags.ignoreCase then
    if flags.unicode then .anyCase s else .inter (.anyCase s) .ascii
  else s

/-- A set of characters by a property, given by one letter or in braces. -/
def readProperty (flags : Flags) (negated : Bool) (s : List Char) :
    Except PatternError (Atom × List Char) := do
  let (name, rest) ← match skipIgnored flags.verbose s with
    | [] => .error .unfinishedEscape
    | '{' :: rest => takeBraced flags.verbose false [] rest
    | '\\' :: _ => .error (.unknownProperty "\\")
    | c :: rest => .ok ([c], rest)
  if !flags.unicode then .error .splitsCharacters
  else match propertySet? name with
    | none => .error (.unknownProperty (.ofList name))
    | some (set, excluded) =>
      let set := flags.withCase (.named set)
      return (.set (if negated != excluded then .compl set else set), rest)

/-- One of the sets of digits, blanks and word characters, by its letter. A capital letter stands
for the characters that are not in the set. -/
def classOfLetter (flags : Flags) (letter : Char) : Except PatternError CharSet :=
  let set := match letter.toLower with
    | 'd' => if flags.unicode then CharSet.digit else .asciiDigit
    | 's' => if flags.unicode then .blank else .asciiBlank
    | _ => if flags.unicode then .word else .asciiWord
  if letter.isUpper then
    if flags.unicode then .ok (.compl set) else .error .splitsCharacters
  else .ok set

/-- Letters and dashes, and the text after them. In a verbose pattern blanks and comments are left
out. -/
def takeEdgeName (verbose inComment : Bool) (taken : List Char) :
    List Char → List Char × List Char
  | [] => (taken.reverse, [])
  | c :: rest =>
    if verbose && inComment then takeEdgeName verbose (c != '\n') taken rest
    else if c.isAlpha || c = '-' then takeEdgeName verbose false (c :: taken) rest
    else if verbose && Unicode.isBlank c then takeEdgeName verbose false taken rest
    else if verbose && c = '#' then takeEdgeName verbose true taken rest
    else (taken.reverse, c :: rest)

/-- The side of a word by its name. -/
def wordEdge? : List Char → Option WordEdge
  | ['s', 't', 'a', 'r', 't'] => some .start
  | ['e', 'n', 'd'] => some .stop
  | ['s', 't', 'a', 'r', 't', '-', 'h', 'a', 'l', 'f'] => some .startHalf
  | ['e', 'n', 'd', '-', 'h', 'a', 'l', 'f'] => some .stopHalf
  | _ => none

/-- The side of a word that `\b` asks for: a name in braces may follow. A brace with anything but a
name behind it begins a repetition and is left alone. -/
def readWordEdge (verbose : Bool) (s : List Char) : Except PatternError (WordEdge × List Char) :=
  match s with
  | '{' :: inner =>
    match skipIgnored verbose inner with
    | [] => .error .unfinishedEscape
    | c :: rest =>
      if !(c.isAlpha || c = '-') then .ok (.either, s)
      else match takeEdgeName verbose false [] (c :: rest) with
        | (name, '}' :: rest) =>
          match wordEdge? name with
          | some edge => .ok (edge, rest)
          | none => .error .unfinishedEscape
        | _ => .error .unfinishedEscape
  | _ => .ok (.either, s)

/-- Reads what stands after a backslash. -/
def readEscape (flags : Flags) (s : List Char) : Except PatternError (Atom × List Char) :=
  match s with
  | [] => .error .unfinishedEscape
  | c :: rest =>
    let char (d : Char) : Except PatternError (Atom × List Char) := .ok (.char d false, rest)
    let word (edge : WordEdge) : Atom := .look (.word edge (!flags.unicode))
    if c.isDigit then .error .backreference
    else if isEscapable c then char c
    else match c with
      | 'x' => readCodePoint flags.verbose 2 rest
      | 'u' => readCodePoint flags.verbose 4 rest
      | 'U' => readCodePoint flags.verbose 8 rest
      | 'p' => readProperty flags false rest
      | 'P' => readProperty flags true rest
      | 'd' | 's' | 'w' | 'D' | 'S' | 'W' => (classOfLetter flags c).map fun set => (.set set, rest)
      | 'a' => char '\x07'
      | 'f' => char '\x0c'
      | 't' => char '\t'
      | 'n' => char '\n'
      | 'r' => char '\r'
      | 'v' => char '\x0b'
      | 'A' => .ok (.look .textStart, rest)
      | 'z' => .ok (.look .textEnd, rest)
      | 'b' => (readWordEdge flags.verbose rest).map fun (edge, rest) => (word edge, rest)
      | 'B' => .ok (word .neither, rest)
      | '<' => .ok (word .start, rest)
      | '>' => .ok (word .stop, rest)
      | _ => .error (.unknownEscape c)

end SnippetLint.Pattern
