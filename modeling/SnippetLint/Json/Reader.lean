import SnippetLint.Json.Value
import SnippetLint.Text.CodePoint

/-!
# Reading JSON

`Json.parse?` reads a text that is one JSON value with blanks around it.
-/

namespace SnippetLint.Json

/-- A text without the blanks at its front. -/
def skipBlanks (s : List Char) : List Char :=
  s.dropWhile fun c => [' ', '\t', '\n', '\r'].contains c

/-- The number that four hexadecimal digits make. -/
def hex4? (a b c d : Char) : Option Nat := Text.hexNumber? [a, b, c, d]

/-- The rest of a string after its opening quote. -/
def readStringRest (taken : List Char) : List Char → Option (List Char × List Char)
  | [] => none
  | '"' :: rest => some (taken.reverse, rest)
  | '\\' :: 'u' :: a :: b :: c :: d :: '\\' :: 'u' :: e :: f :: g :: h :: rest => do
    let high ← hex4? a b c d
    if 0xD800 ≤ high ∧ high < 0xDC00 then
      let low ← hex4? e f g h
      if 0xDC00 ≤ low ∧ low < 0xE000 then
        let c ← Text.charOfCodePoint? (0x10000 + (high - 0xD800) * 0x400 + (low - 0xDC00))
        readStringRest (c :: taken) rest
      else none
    else
      readStringRest ((← Text.charOfCodePoint? high) :: taken) ('\\' :: 'u' :: e :: f :: g :: h :: rest)
  | '\\' :: 'u' :: a :: b :: c :: d :: rest => do
    readStringRest ((← (hex4? a b c d).bind Text.charOfCodePoint?) :: taken) rest
  | '\\' :: c :: rest =>
    match c with
    | '"' => readStringRest ('"' :: taken) rest
    | '\\' => readStringRest ('\\' :: taken) rest
    | '/' => readStringRest ('/' :: taken) rest
    | 'b' => readStringRest ('\x08' :: taken) rest
    | 'f' => readStringRest ('\x0c' :: taken) rest
    | 'n' => readStringRest ('\n' :: taken) rest
    | 'r' => readStringRest ('\r' :: taken) rest
    | 't' => readStringRest ('\t' :: taken) rest
    | _ => none
  | c :: rest => if c.toNat < 0x20 then none else readStringRest (c :: taken) rest

/-- The value of decimal digits. -/
def digitsValue (digits : List Char) : Nat :=
  digits.foldl (fun n c => 10 * n + (c.toNat - '0'.toNat)) 0

/-- The digits at the front of a text, at least one. -/
def takeDigits? (s : List Char) : Option (List Char × List Char) :=
  match s.span Char.isDigit with
  | ([], _) => none
  | (digits, rest) => some (digits, rest)

/-- The fraction at the front of a text, or nothing. -/
def takeFraction? : List Char → Option (List Char × List Char)
  | '.' :: rest => (takeDigits? rest).map fun (digits, rest) => ('.' :: digits, rest)
  | s => some ([], s)

/-- The exponent at the front of a text, or nothing. -/
def takeExponent? : List Char → Option (List Char × List Char)
  | c :: rest =>
    if c = 'e' ∨ c = 'E' then
      match rest with
      | '+' :: rest => (takeDigits? rest).map fun (digits, rest) => (c :: '+' :: digits, rest)
      | '-' :: rest => (takeDigits? rest).map fun (digits, rest) => (c :: '-' :: digits, rest)
      | rest => (takeDigits? rest).map fun (digits, rest) => (c :: digits, rest)
    else some ([], c :: rest)
  | [] => some ([], [])

/-- Reads a number without its sign. A number of several digits does not begin with a zero. -/
def readUnsigned (negative : Bool) (s : List Char) : Option (Json × List Char) := do
  let (digits, rest) ← takeDigits? s
  if digits.length > 1 ∧ digits.head? = some '0' then none
  else
    let (fraction, rest) ← takeFraction? rest
    let (exponent, rest) ← takeExponent? rest
    if !negative && fraction.isEmpty && exponent.isEmpty then some (.nat (digitsValue digits), rest)
    else
      let sign := if negative then ['-'] else []
      some (.number (.ofList (sign ++ digits ++ fraction ++ exponent)), rest)

mutual

/-- Reads a value; `fuel` bounds how often reading goes into a value and on to the next one. -/
def readValue (fuel : Nat) (s : List Char) : Option (Json × List Char) :=
  match fuel with
  | 0 => none
  | fuel + 1 =>
    match skipBlanks s with
    | 'n' :: 'u' :: 'l' :: 'l' :: rest => some (.null, rest)
    | 't' :: 'r' :: 'u' :: 'e' :: rest => some (.bool true, rest)
    | 'f' :: 'a' :: 'l' :: 's' :: 'e' :: rest => some (.bool false, rest)
    | '"' :: rest => (readStringRest [] rest).map fun (chars, rest) => (.string (.ofList chars), rest)
    | '[' :: rest =>
      match skipBlanks rest with
      | ']' :: rest => some (.array [], rest)
      | rest => (readItems fuel rest).map fun (items, rest) => (.array items, rest)
    | '\x7b' :: rest =>
      match skipBlanks rest with
      | '\x7d' :: rest => some (.object [], rest)
      | rest => (readMembers fuel rest).map fun (members, rest) => (.object members, rest)
    | '-' :: rest => readUnsigned true rest
    | rest => readUnsigned false rest

/-- Reads the items of an array, of which there is at least one, and its closing bracket. -/
def readItems (fuel : Nat) (s : List Char) : Option (List Json × List Char) :=
  match fuel with
  | 0 => none
  | fuel + 1 => do
    let (item, rest) ← readValue fuel s
    match skipBlanks rest with
    | ',' :: rest => (readItems fuel rest).map fun (items, rest) => (item :: items, rest)
    | ']' :: rest => some ([item], rest)
    | _ => none

/-- Reads the members of an object, of which there is at least one, and its closing brace. -/
def readMembers (fuel : Nat) (s : List Char) : Option (List (String × Json) × List Char) :=
  match fuel with
  | 0 => none
  | fuel + 1 =>
    match skipBlanks s with
    | '"' :: rest => do
      let (key, rest) ← readStringRest [] rest
      match skipBlanks rest with
      | ':' :: rest => do
        let (value, rest) ← readValue fuel rest
        match skipBlanks rest with
        | ',' :: rest =>
          (readMembers fuel rest).map fun (members, rest) =>
            ((.ofList key, value) :: members, rest)
        | '\x7d' :: rest => some ([(.ofList key, value)], rest)
        | _ => none
      | _ => none
    | _ => none

end

/-- Reads a text that is one value. Every step into a value or on to the next one takes a character
at least, so twice the length of the text is fuel enough. -/
def parse? (text : String) : Option Json :=
  let s := text.toList
  match readValue (2 * s.length + 2) s with
  | some (value, rest) => if (skipBlanks rest).isEmpty then some value else none
  | none => none

end SnippetLint.Json
