import SnippetLint.Text.CodePoint
import SnippetLint.Yaml.Character
import SnippetLint.Yaml.Error

/-!
# Scalars

The texts that a YAML text holds, in its three spellings: plain, quoted and as a block of lines.
Lines of plain and quoted scalars are folded: a single end of a line counts as a space, and of
several ends the first does not count.
-/

namespace SnippetLint.Yaml

/-- The spelling of a scalar. -/
inductive ScalarStyle
  | plain
  | singleQuoted
  | doubleQuoted
  | literal
  | folded
  deriving Repr, DecidableEq

/-! ## Blanks within a scalar -/

/-- The blanks that have been read since the last character that is none, last first: those of the
line where they began, the first end of a line, and the ends of lines after it. -/
structure Gap where
  blanks : List Char := []
  /-- An end of a line has been read, though an escaped one does not count. -/
  folding : Bool := false
  firstBreak : List Char := []
  laterBreaks : List Char := []

namespace Gap

/-- Whether nothing has been read. -/
def isEmpty (g : Gap) : Bool := g.blanks.isEmpty && !g.folding

/-- Adds a space or a tab. At the front of a further line they do not count. -/
def addBlank (g : Gap) (c : Char) : Gap :=
  if g.folding then g else { g with blanks := c :: g.blanks }

/-- Adds the end of a line. -/
def addBreak (g : Gap) (lineBreak : List Char) : Gap :=
  if g.folding then { g with laterBreaks := lineBreak ++ g.laterBreaks }
  else { folding := true, firstBreak := lineBreak }

/-- What the blanks count as, last character first. -/
def folded (g : Gap) : List Char :=
  if !g.folding then g.blanks
  else if g.firstBreak.head? == some '\n' then
    if g.laterBreaks.isEmpty then [' '] else g.laterBreaks
  else g.laterBreaks ++ g.firstBreak

end Gap

/-! ## Quoted scalars -/

/-- The character that a letter after a backslash stands for. -/
def escapedChar? : Char → Option Char
  | '0' => some '\x00'
  | 'a' => some '\x07'
  | 'b' => some '\x08'
  | 't' | '\t' => some '\t'
  | 'n' => some '\n'
  | 'v' => some '\x0b'
  | 'f' => some '\x0c'
  | 'r' => some '\r'
  | 'e' => some '\x1b'
  | ' ' => some ' '
  | '"' => some '"'
  | '/' => some '/'
  | '\\' => some '\\'
  | 'N' => some '\u0085'
  | '_' => some '\u00a0'
  | 'L' => some '\u2028'
  | 'P' => some '\u2029'
  | _ => none

/-- The number of hexadecimal digits that follow a letter after a backslash. -/
def escapedDigits? : Char → Option Nat
  | 'x' => some 2
  | 'u' => some 4
  | 'U' => some 8
  | _ => none

/-- What an escape sequence stands for, the number of its characters, and the text after it. -/
def readQuotedEscape : List Char → Except YamlError (Char × Nat × List Char)
  | [] => .error .badEscape
  | c :: rest =>
    match escapedDigits? c with
    | some count =>
      let digits := rest.take count
      if digits.length < count then .error .badEscape
      else match (Text.hexNumber? digits).bind Text.charOfCodePoint? with
        | some d => .ok (d, count + 1, rest.drop count)
        | none => .error .badEscape
    | none =>
      match escapedChar? c with
      | some d => .ok (d, 1, rest)
      | none => .error .badEscape

/-- Reads a quoted scalar after its opening quote and answers its text and the number of characters
up to and with its closing quote. `fuel` bounds the number of its parts, `length` is the number of
characters that have been read, `taken` is what they stand for, last character first, and
`atLineStart` says that a line has just begun. -/
def readQuoted (single : Bool) (fuel length : Nat) (taken : List Char) (gap : Gap)
    (atLineStart : Bool) (s : List Char) : Except YamlError (List Char × Nat) :=
  match fuel with
  | 0 => .error .unclosedQuote
  | fuel + 1 =>
    match s with
    | [] => .error .unclosedQuote
    | c :: rest =>
      if isBlank c then
        readQuoted single fuel (length + 1) taken (gap.addBlank c) false rest
      else if isBreak c then
        let (lineBreak, rest) := takeBreak s
        readQuoted single fuel (length + breakLength s) taken (gap.addBreak lineBreak) true rest
      else if atLineStart && startsDocumentMark s then .error .documentMarkInQuote
      else
        let taken := gap.folded ++ taken
        if c == (if single then '\'' else '"') then
          match single, rest with
          | true, '\'' :: rest =>
            readQuoted single fuel (length + 2) ('\'' :: taken) {} false rest
          | _, _ => .ok (taken.reverse, length + 1)
        else if c == '\\' && !single then
          if !rest.isEmpty && startsBreak rest then
            readQuoted single fuel (length + 1 + breakLength rest) taken { folding := true } true
              (takeBreak rest).2
          else do
            let (d, count, rest) ← readQuotedEscape rest
            readQuoted single fuel (length + 1 + count) (d :: taken) {} false rest
        else readQuoted single fuel (length + 1) (c :: taken) {} false rest

/-! ## Plain scalars -/

/-- A plain scalar that has been read: its text, the number of characters that it takes with the
blanks after it, and whether a line ended in those blanks. -/
structure PlainScalar where
  text : List Char
  length : Nat
  endedLine : Bool

/-- Whether a plain scalar ends before a text, apart from blanks. Brackets and commas end it in a
flow collection only. -/
def endsPlain (inFlow : Bool) : List Char → Bool
  | [] => true
  | ':' :: rest => startsBlank rest
  | c :: _ => inFlow && [',', '[', ']', '\x7b', '\x7d'].contains c

/-- A colon in a flow collection must not stand right before brackets, commas and question
marks. -/
def misplacesColon : List Char → Bool
  | ':' :: c :: _ => [',', '?', '[', ']', '\x7b', '\x7d'].contains c
  | _ => false

/-- The scalar that has been read in `length` characters, with its last character first in
`taken`. -/
def PlainScalar.ofTaken (taken : List Char) (gap : Gap) (length : Nat) : PlainScalar :=
  ⟨taken.reverse, length, gap.folding⟩

/-- Reads a plain scalar; further lines of it must be indented to the column `indentation`. -/
def readPlain (inFlow : Bool) (indentation : Nat) (fuel length : Nat) (taken : List Char)
    (gap : Gap) (column : Nat) (s : List Char) : Except YamlError PlainScalar :=
  match fuel with
  | 0 => .ok (.ofTaken taken gap length)
  | fuel + 1 =>
    match s with
    | [] => .ok (.ofTaken taken gap length)
    | c :: rest =>
      if isBlank c then
        if gap.folding && column < indentation && c == '\t' then .error .tabAsIndentation
        else
          readPlain inFlow indentation fuel (length + 1) taken (gap.addBlank c) (column + 1) rest
      else if isBreak c then
        let (lineBreak, rest) := takeBreak s
        readPlain inFlow indentation fuel (length + breakLength s) taken (gap.addBreak lineBreak)
          0 rest
      else if !gap.isEmpty && ((!inFlow && column < indentation) ||
          (column == 0 && startsDocumentMark s) || c == '#') then .ok (.ofTaken taken gap length)
      else if inFlow && misplacesColon s then .error .colonInFlow
      else if endsPlain inFlow s then .ok (.ofTaken taken gap length)
      else
        readPlain inFlow indentation fuel (length + 1) (c :: (gap.folded ++ taken)) {}
          (column + 1) rest

/-! ## Block scalars -/

/-- Which ends of lines at the end of a block scalar count: none, one, or all. -/
inductive Chomping
  | strip
  | clip
  | keep
  deriving Repr, DecidableEq

/-- The chomping that a character asks for. -/
def chomping? : Char → Option Chomping
  | '-' => some .strip
  | '+' => some .keep
  | _ => none

/-- The indentation that a digit asks for. -/
def indentDigit? (c : Char) : Option Nat :=
  if c.isDigit then some (c.toNat - '0'.toNat) else none

/-- Reads the header of a block scalar after its indicator: a chomping and an indentation in either
order, then nothing but a comment on the line. -/
def readBlockHeader (s : List Char) :
    Except YamlError ((Chomping × Option Nat) × List Char) := do
  let chomp := fun (s : List Char) => match s with
    | c :: rest => (chomping? c).elim (Chomping.clip, s) (·, rest)
    | [] => (.clip, [])
  let indent := fun (s : List Char) => match s with
    | c :: rest => (indentDigit? c).elim (none, s) (some ·, rest)
    | [] => (none, [])
  let ((chomping, indentation), rest) := match s with
    | c :: _ =>
      if (chomping? c).isSome then
        let (chomping, rest) := chomp s
        let (indentation, rest) := indent rest
        ((chomping, indentation), rest)
      else
        let (indentation, rest) := indent s
        let (chomping, rest) := if indentation.isSome then chomp rest else (.clip, rest)
        ((chomping, indentation), rest)
    | [] => ((.clip, none), [])
  if indentation == some 0 then throw .badBlockHeader
  let rest := rest.dropWhile isBlank
  let rest := if rest.head? == some '#' then rest.dropWhile (!isBreak ·) else rest
  if startsBreak rest then return ((chomping, indentation), (takeBreak rest).2)
  else throw .badBlockHeader

/-- Blank lines, and the indentation of the line after them. -/
structure BlankLines where
  /-- The ends of the blank lines. -/
  breaks : List Char
  /-- The column of the first character that is neither indentation nor the end of a line. -/
  column : Nat
  /-- The largest column among these lines. -/
  widest : Nat
  rest : List Char

/-- Goes over blank lines and the indentation after them. With a limit, indentation ends at that
column; a tab must not stand in it. -/
def readBlankLines (limit : Option Nat) (fuel : Nat) (b : BlankLines) :
    Except YamlError BlankLines :=
  match fuel with
  | 0 => .ok b
  | fuel + 1 =>
    let inIndentation := limit.all (b.column < ·)
    match b.rest with
    | [] => .ok { b with widest := max b.widest b.column }
    | c :: rest =>
      if inIndentation && c == ' ' then
        readBlankLines limit fuel { b with column := b.column + 1, rest := rest }
      else if inIndentation && c == '\t' then .error .tabAsIndentation
      else
        let b := { b with widest := max b.widest b.column }
        if isBreak c then
          let (lineBreak, rest) := takeBreak b.rest
          readBlankLines limit fuel
            { b with breaks := b.breaks ++ lineBreak, column := 0, rest := rest }
        else .ok b

/-- Goes over blank lines from the start of a line. -/
def blankLines (limit : Option Nat) (fuel : Nat) (s : List Char) : Except YamlError BlankLines :=
  readBlankLines limit fuel ⟨[], 0, 0, s⟩

/-- Reads the lines of a block scalar that are indented to the column `indentation`. What has been
read is `taken`, last character first; the ends of lines that have not been added to it yet are
`lastBreak`, that of the last line, and the blank lines after it; `afterIndented` says that the
last line began with a blank. -/
def readBlockLines (literal : Bool) (indentation fuel : Nat) (taken lastBreak : List Char)
    (afterIndented : Bool) (blank : BlankLines) :
    Except YamlError (List Char × List Char × BlankLines) :=
  match fuel with
  | 0 => .ok (taken, lastBreak, blank)
  | fuel + 1 =>
    match blank.rest with
    | [] => .ok (taken, lastBreak, blank)
    | c :: _ =>
      if blank.column ≠ indentation then .ok (taken, lastBreak, blank)
      else do
        let indented := isBlank c
        let joint :=
          if !literal && lastBreak.head? == some '\n' && !afterIndented && !indented then
            if blank.breaks.isEmpty then [' '] else []
          else lastBreak
        let line := blank.rest.takeWhile (!isBreak ·)
        let (lineBreak, rest) := takeBreak (blank.rest.dropWhile (!isBreak ·))
        let taken := (joint ++ blank.breaks ++ line).reverse ++ taken
        let blank ← blankLines (some indentation) fuel rest
        readBlockLines literal indentation fuel taken lineBreak indented blank

/-- Reads a block scalar after its indicator. Its indentation is that of the first line that is not
blank, unless the header gives one; it is at least `level`, one more than the indentation of the
block around it. The text after the scalar begins in the indentation that ends it. There are less
than `fuel` characters in all. -/
def readBlock (literal : Bool) (level fuel : Nat) (s : List Char) :
    Except YamlError (List Char × List Char) := do
  let ((chomping, increment), rest) ← readBlockHeader s
  let given := increment.map ((level - 1) + ·)
  let blank ← blankLines given fuel rest
  let indentation := given.getD (max (max blank.widest level) 1)
  let (taken, lastBreak, blank) ←
    readBlockLines literal indentation fuel [] [] false blank
  let tail := match chomping with
    | .strip => []
    | .clip => lastBreak
    | .keep => lastBreak ++ blank.breaks
  return (taken.reverse ++ tail, blank.rest)

end SnippetLint.Yaml
