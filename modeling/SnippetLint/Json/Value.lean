import SnippetLint.Text.Basic
import SnippetLint.Text.CodePoint

/-!
# JSON values and their text

A number is kept as a natural number if it is written as one, and as its text otherwise: nothing
in this library computes with signs, fractions or exponents, but they must not be mistaken for
natural numbers. The members of an object keep their order.
-/

namespace SnippetLint

/-- A JSON value. -/
inductive Json where
  | null
  | bool (b : Bool)
  /-- A number without sign, fraction and exponent. -/
  | nat (n : Nat)
  /-- Any other number, as it is written. -/
  | number (text : String)
  | string (s : String)
  | array (items : List Json)
  | object (members : List (String × Json))

namespace Json

/-- What is written for a character of a string. Quotes, backslashes and control characters are
escaped, and nothing else. -/
def encodeChar (c : Char) : List Char :=
  match c with
  | '"' => ['\\', '"']
  | '\\' => ['\\', '\\']
  | '\n' => ['\\', 'n']
  | '\r' => ['\\', 'r']
  | '\t' => ['\\', 't']
  | '\x08' => ['\\', 'b']
  | '\x0c' => ['\\', 'f']
  | c =>
    if c.toNat < 0x20 then
      ['\\', 'u', '0', '0', Text.hexDigit (c.toNat / 16), Text.hexDigit (c.toNat % 16)]
    else [c]

/-- What is written for a string. -/
def encodeString (s : String) : List Char := '"' :: s.toList.flatMap encodeChar ++ ['"']

/-- Parts with a separator between each two of them. -/
def joined (separator : List Char) : List (List Char) → List Char
  | [] => []
  | [part] => part
  | part :: parts => part ++ separator ++ joined separator parts

/-- The line feed and the blanks before a line at some depth. -/
def newLine (depth : Nat) : List Char := '\n' :: List.replicate (2 * depth) ' '

mutual

/-- The text of a value that starts at some depth, with a line for every item and member. -/
def prettyAt (depth : Nat) : Json → List Char
  | null => "null".toList
  | bool b => (if b then "true" else "false").toList
  | nat n => Text.decimal n
  | number text => text.toList
  | string s => encodeString s
  | array [] => ['[', ']']
  | array (item :: items) =>
    '[' :: newLine (depth + 1) ++
      joined (',' :: newLine (depth + 1)) (prettyItems (depth + 1) (item :: items)) ++
      newLine depth ++ [']']
  | object [] => ['\x7b', '\x7d']
  | object (member :: members) =>
    '\x7b' :: newLine (depth + 1) ++
      joined (',' :: newLine (depth + 1)) (prettyMembers (depth + 1) (member :: members)) ++
      newLine depth ++ ['\x7d']

/-- The texts of the items of an array. -/
def prettyItems (depth : Nat) : List Json → List (List Char)
  | [] => []
  | item :: items => prettyAt depth item :: prettyItems depth items

/-- The texts of the members of an object. -/
def prettyMembers (depth : Nat) : List (String × Json) → List (List Char)
  | [] => []
  | (key, value) :: members =>
    (encodeString key ++ ':' :: ' ' :: prettyAt depth value) :: prettyMembers depth members

end

/-- The text of a value, with a line for every item and member. -/
def pretty (j : Json) : String := .ofList (prettyAt 0 j)

mutual

/-- The text of a value on one line, without blanks. -/
def compactChars : Json → List Char
  | null => "null".toList
  | bool b => (if b then "true" else "false").toList
  | nat n => Text.decimal n
  | number text => text.toList
  | string s => encodeString s
  | array items => '[' :: joined [','] (compactItems items) ++ [']']
  | object members => '\x7b' :: joined [','] (compactMembers members) ++ ['\x7d']

/-- The texts of the items of an array. -/
def compactItems : List Json → List (List Char)
  | [] => []
  | item :: items => compactChars item :: compactItems items

/-- The texts of the members of an object. -/
def compactMembers : List (String × Json) → List (List Char)
  | [] => []
  | (key, value) :: members => (encodeString key ++ ':' :: compactChars value) :: compactMembers members

end

/-- The text of a value on one line. -/
def compact (j : Json) : String := .ofList (compactChars j)

end Json

end SnippetLint
