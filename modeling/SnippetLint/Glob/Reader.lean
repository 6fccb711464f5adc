import SnippetLint.Glob.Strategy
import SnippetLint.Text.Basic

/-!
# Reading a glob

`compile` reads a glob or says why it is refused. The reader goes through the text once and keeps,
for each open brace, the tokens before it and the alternatives that are complete.
-/

namespace SnippetLint.Glob

/-- The reasons for which a glob is refused. -/
inductive GlobError
  | unclosedClass
  | badRange (first last : Char)
  | unopenedBrace
  | unclosedBrace
  | danglingEscape
  deriving Repr, DecidableEq

/-- What is said about a refused glob. -/
def GlobError.message : GlobError → String
  | unclosedClass => "unclosed character class; missing ']'"
  | badRange first last => (("invalid range; ".push first).push '>').push last
  | unopenedBrace => "unopened alternate group; missing opening brace"
  | unclosedBrace => "unclosed alternate group; missing closing brace"
  | danglingEscape => "dangling '\\'"

/-- A brace that is open: the tokens before it, last first, and its complete alternatives, last
first. -/
structure OpenBrace where
  before : List Token
  alternatives : List (List Token)

/-- A glob that has been read up to some place: the open braces, innermost first, and the tokens
of the current sequence, last first. -/
structure Reading where
  braces : List OpenBrace
  tokens : List Token

namespace Reading

/-- Adds a token. -/
def add (r : Reading) (t : Token) : Reading := { r with tokens := t :: r.tokens }

/-- Closes the innermost brace. -/
def closeBrace (r : Reading) : Except GlobError Reading :=
  match r.braces with
  | [] => .error .unopenedBrace
  | brace :: braces =>
    let alternatives := (r.tokens.reverse :: brace.alternatives).reverse
    .ok ⟨braces, .choice alternatives :: brace.before⟩

/-- Ends an alternative of the innermost brace; outside braces a comma is a character. -/
def comma (r : Reading) : Reading :=
  match r.braces with
  | [] => r.add (.literal ',')
  | brace :: braces =>
    ⟨{ brace with alternatives := r.tokens.reverse :: brace.alternatives } :: braces, []⟩

/-- Two stars that are no component of their own are as good as one. -/
def addTwoStars (r : Reading) : Reading := (r.add .anyRun).add .anyRun

/-- Puts directories in the place of the slash before two stars. Directories at the front, or below
a directory, stay what they are. -/
def addDirectories (r : Reading) (atEnd : Bool) : Reading :=
  let token := if atEnd then Token.trailing else .between
  match r.tokens with
  | .leading :: rest => { r with tokens := .leading :: rest }
  | .trailing :: rest => { r with tokens := .trailing :: rest }
  | _ :: rest => { r with tokens := token :: rest }
  | [] => r.add token

/-- Reads what follows two stars; `previous` is the character before them. They stand for
directories if they are a whole component. -/
def readTwoStars (r : Reading) (previous : Option Char) (rest : List Char) :
    Reading × List Char :=
  let afterSeparator := previous == some '/' ||
    (!r.braces.isEmpty && (previous == some ',' || previous == some '\x7b'))
  if r.tokens.isEmpty then
    match rest with
    | [] => (r.add .leading, [])
    | '/' :: rest => (r.add .leading, rest)
    | rest => (r.addTwoStars, rest)
  else if !afterSeparator then (r.addTwoStars, rest)
  else match rest with
    | [] => (r.addDirectories true, [])
    | '/' :: rest => (r.addDirectories false, rest)
    | c :: _ =>
      if !r.braces.isEmpty && (c == ',' || c == '\x7d') then (r.addDirectories true, rest)
      else (r.addTwoStars, rest)

end Reading

/-- Reads the characters and ranges of a class, last first, up to its closing bracket. A bracket or
a dash at the front is a character, and so is a dash before the closing bracket. -/
def readRanges (first inRange : Bool) (ranges : List (Char × Char)) :
    List Char → Except GlobError (List (Char × Char) × List Char)
  | [] => .error .unclosedClass
  | c :: rest =>
    if c = ']' && !first then .ok (if inRange then ('-', '-') :: ranges else ranges, rest)
    else if c = '-' && !first && !inRange then readRanges false true ranges rest
    else match inRange, ranges with
      | true, (low, _) :: ranges =>
        if c < low then .error (.badRange low c)
        else readRanges false false ((low, c) :: ranges) rest
      | _, ranges => readRanges false false ((c, c) :: ranges) rest

/-- Reads a class after its opening bracket. -/
def readClass (s : List Char) : Except GlobError (Token × List Char) :=
  let (negated, s) := match s with
    | '!' :: rest | '^' :: rest => (true, rest)
    | _ => (false, s)
  (readRanges true false [] s).map fun (ranges, rest) => (.oneOf negated ranges.reverse, rest)

/-- Reads the token that begins with `c`. -/
def readToken (r : Reading) (previous : Option Char) (c : Char) (rest : List Char) :
    Except GlobError (Reading × List Char) :=
  match c, rest with
  | '?', _ => .ok (r.add .anyByte, rest)
  | '*', '*' :: rest => .ok (r.readTwoStars previous rest)
  | '*', _ => .ok (r.add .anyRun, rest)
  | '[', _ => (readClass rest).map fun (token, rest) => (r.add token, rest)
  | '\x7b', _ => .ok (⟨⟨r.tokens, []⟩ :: r.braces, []⟩, rest)
  | '\x7d', _ => r.closeBrace.map (·, rest)
  | ',', _ => .ok (r.comma, rest)
  | '\\', [] => .error .danglingEscape
  | '\\', d :: rest => .ok (r.add (.literal d), rest)
  | c, _ => .ok (r.add (.literal c), rest)

/-- Reads the tokens of a glob, at most `budget` of them. -/
def readTokens (budget : Nat) (r : Reading) (previous : Option Char) (s : List Char) :
    Except GlobError Reading :=
  match budget, s with
  | _, [] => .ok r
  | 0, _ => .ok r
  | budget + 1, c :: rest => do
    let (r, after) ← readToken r previous c rest
    let consumed := (c :: rest).take (rest.length + 1 - after.length)
    readTokens budget r consumed.getLast? after

/-- A glob that is ready for use. -/
structure Matcher where
  /-- The text of the glob. -/
  glob : String
  tokens : List Token
  /-- Matches the bytes of a whole path. -/
  regex : Pattern.PlainRegex

/-- Makes a glob ready for use. -/
def compile (glob : String) : Except GlobError Matcher := do
  let s := glob.toList
  let r ← readTokens s.length ⟨[], []⟩ none s
  if !r.braces.isEmpty then .error .unclosedBrace
  else
    let tokens := r.tokens.reverse
    return ⟨glob, tokens, .seq [.look .textStart, tokensRegex tokens, .look .textEnd]⟩

namespace Matcher

/-- What a glob asks for. -/
def strategy (m : Matcher) : Strategy := Glob.strategy m.tokens

/-- Whether a path leads to a file that has a name: its last component is no double dot. -/
def leadsToName (path : List Char) : Bool :=
  (Text.splitAt '/' path).getLast? != some ['.', '.']

/-- Whether a glob matches a path. A glob that asks for a name does not match a path that leads to
none. -/
def covers (m : Matcher) (path : String) : Bool :=
  (!m.strategy.asksForName || leadsToName path.toList) &&
    m.regex.occursIn (bytesOfText path.toList)

end Matcher

end SnippetLint.Glob
