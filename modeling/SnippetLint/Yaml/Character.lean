/-!
# The characters of YAML

Which characters a YAML text may have, which of them end a line, and places in such a text. A
carriage return and a line feed together end one line.
-/

namespace SnippetLint.Yaml

/-- The characters that a text may have. -/
def isAllowed (c : Char) : Bool :=
  let n := c.toNat
  n == 0x9 || n == 0xA || n == 0xD || (0x20 ≤ n && n ≤ 0x7E) || n == 0x85 ||
    (0xA0 ≤ n && n ≤ 0xFFFD) || 0x10000 ≤ n

/-- The characters that end a line. -/
def isBreak (c : Char) : Bool :=
  c == '\n' || c == '\r' || c == '\u0085' || c == '\u2028' || c == '\u2029'

/-- A space or a tab. -/
def isBlank (c : Char) : Bool := c == ' ' || c == '\t'

/-- An ASCII letter or digit, an underscore or a dash. -/
def isNameChar (c : Char) : Bool := c.isAlphanum || c == '_' || c == '-'

/-- Whether a text is at its end or goes on with a space, a tab or the end of a line. -/
def startsBlank : List Char → Bool
  | [] => true
  | c :: _ => isBlank c || isBreak c

/-- Whether a text is at its end or goes on with the end of a line. -/
def startsBreak : List Char → Bool
  | [] => true
  | c :: _ => isBreak c

/-- The end of a line, as it counts in a scalar, and the text after it. -/
def takeBreak : List Char → List Char × List Char
  | '\r' :: '\n' :: rest => (['\n'], rest)
  | c :: rest =>
    if c == '\n' || c == '\r' || c == '\u0085' then (['\n'], rest)
    else if isBreak c then ([c], rest)
    else ([], c :: rest)
  | [] => ([], [])

/-- The number of characters of the end of a line that a text begins with. -/
def breakLength : List Char → Nat
  | '\r' :: '\n' :: _ => 2
  | c :: _ => if isBreak c then 1 else 0
  | [] => 0

/-- Whether a text begins with a mark that starts or ends a document. -/
def startsDocumentMark : List Char → Bool
  | '-' :: '-' :: '-' :: rest => startsBlank rest
  | '.' :: '.' :: '.' :: rest => startsBlank rest
  | _ => false

/-- A place in a text: what follows it, its line and column, and the number of characters before
it, each counted from zero. -/
structure Place where
  rest : List Char
  line : Nat
  column : Nat
  index : Nat
  deriving Repr

namespace Place

/-- The place before a text. -/
def start (text : List Char) : Place := ⟨text, 0, 0, 0⟩

/-- Goes over `count` characters, ends of lines among them. -/
def skip (p : Place) : Nat → Place
  | 0 => p
  | count + 1 =>
    match p.rest with
    | [] => p
    | c :: rest =>
      let endsLine := isBreak c && !(c == '\r' && rest.head? == some '\n')
      let next : Place :=
        if endsLine then ⟨rest, p.line + 1, 0, p.index + 1⟩
        else ⟨rest, p.line, p.column + 1, p.index + 1⟩
      next.skip count

/-- Goes over the characters that pass a test. -/
def skipWhile (p : Place) (test : Char → Bool) : Place := p.skip (p.rest.takeWhile test).length

/-- Goes on to the place before `rest`, which is an end of the text that follows. -/
def goTo (p : Place) (rest : List Char) : Place := p.skip (p.rest.length - rest.length)

end Place

end SnippetLint.Yaml
