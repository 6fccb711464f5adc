import SnippetLint.Pattern.Class
import SnippetLint.Pattern.Size

/-!
# Reading a pattern

`Pattern.compile` reads a pattern and makes a regular expression of it, or says why it is refused.
The reader goes through the text once. It keeps what is still open, innermost last: for each
group the alternatives that are complete, the parts of the current one, and the flags in force.
-/

namespace SnippetLint.Pattern

/-- A part of a pattern: an expression, or a change of flags, which nothing can repeat. -/
inductive Part
  | expression (e : Nested Expression)
  | flagChange

/-- A group, or the whole pattern, that is being read. -/
structure Level where
  flags : Flags
  /-- The number of a group that captures. -/
  number : Option Nat
  /-- The complete alternatives, last first. -/
  alternatives : List (Nested Expression)
  /-- The parts of the current alternative, last first. -/
  parts : List Part

namespace Level

/-- Adds a part that is one node. -/
def add (l : Level) (e : Expression) (depth : Nat) : Level :=
  { l with parts := .expression ⟨e, depth⟩ :: l.parts }

/-- The current alternative. -/
def alternative (l : Level) : Nested Expression :=
  let nested := l.parts.reverse.filterMap fun
    | .expression e => some e
    | .flagChange => none
  let deepest := (nested.map (·.depth)).foldl max 0
  ⟨.seq (nested.map (·.value)), if l.parts.length ≤ 1 then deepest else deepest + 1⟩

/-- Ends the current alternative. -/
def nextAlternative (l : Level) : Level :=
  { l with alternatives := l.alternative :: l.alternatives, parts := [] }

/-- All alternatives. -/
def expression (l : Level) : Nested Expression :=
  match l.alternatives with
  | [] => l.alternative
  | alternatives =>
    let all := (l.alternative :: alternatives).reverse
    ⟨.choice (all.map (·.value)), 1 + (all.map (·.depth)).foldl max 0⟩

end Level

/-- A pattern that has been read up to some place. -/
structure Reading where
  level : Level
  /-- The groups around, innermost first. -/
  outer : List Level
  /-- The classes that are open, innermost first. -/
  classes : List OpenClass
  /-- The number of capturing groups so far. -/
  groups : Nat
  groupNames : List String

namespace Reading

/-- The flags in force. -/
def flags (r : Reading) : Flags := r.level.flags

/-- Adds a part that is one node. -/
def add (r : Reading) (e : Expression) (depth : Nat) : Reading :=
  { r with level := r.level.add e depth }

/-- Adds a part that takes one character as it stands. -/
def addChar (r : Reading) (c : Char) : Reading :=
  let set := if r.flags.ignoreCase then
      if r.flags.unicode then .chars (Unicode.caseVariants c)
      else if c.isAlpha then .chars [c.toLower, c.toUpper]
      else .single c
    else .single c
  r.add (.set set) 0

/-- Adds an escape sequence. -/
def addAtom (r : Reading) : Atom → Except PatternError Reading
  | .char c byteValued =>
    if byteValued && !r.flags.unicode && 0x80 ≤ c.val then .error .splitsCharacters
    else .ok (r.addChar c)
  | .set s => .ok (r.add (.set s) 0)
  | .look a => .ok (r.add (.look a) 0)

/-- Opens a group that does not capture, in which `flags` are in force. -/
def openGroup (r : Reading) (flags : Flags) : Reading :=
  { r with level := ⟨flags, none, [], []⟩, outer := r.level :: r.outer }

/-- Opens a group that captures. -/
def openCapture (r : Reading) : Reading :=
  { r with level := ⟨r.flags, some (r.groups + 1), [], []⟩, outer := r.level :: r.outer,
           groups := r.groups + 1 }

/-- Closes the innermost group. -/
def closeGroup (r : Reading) : Except PatternError Reading :=
  match r.outer with
  | [] => .error .unopenedGroup
  | parent :: outer =>
    let group := r.level.expression
    .ok { r with level := parent.add (.group r.level.number group.value) (group.depth + 1)
                 outer := outer }

/-- Repeats the last part. -/
def repeatLast (r : Reading) (least : Nat) (most : Option Nat) (greedy : Bool) :
    Except PatternError Reading :=
  match r.level.parts with
  | .expression e :: parts =>
    let repeated := Expression.repeated e.value least most (greedy != r.flags.swapGreed)
    .ok { r with level := { r.level with parts := .expression ⟨repeated, e.depth + 1⟩ :: parts } }
  | _ => .error .nothingToRepeat

end Reading

/-- A decimal number and the text after it. Blanks may stand around it, and in a verbose pattern
between its digits. -/
def takeDecimal (verbose inComment : Bool) (value : Option Nat) :
    List Char → Option Nat × List Char
  | [] => (value, [])
  | c :: rest =>
    if inComment then takeDecimal verbose (c != '\n') value rest
    else if c.isDigit then
      takeDecimal verbose false (some (value.getD 0 * 10 + (c.toNat - '0'.toNat))) rest
    else if verbose && value.isSome && Unicode.isBlank c then takeDecimal verbose false value rest
    else if verbose && value.isSome && c = '#' then takeDecimal verbose true value rest
    else (value, c :: rest)

/-- A count of a repetition: below 2^32. -/
def readCount (verbose : Bool) (s : List Char) : Except PatternError (Nat × List Char) :=
  match takeDecimal verbose false none (s.dropWhile Unicode.isBlank) with
  | (some n, rest) =>
    if n < UInt32.size then .ok (n, rest.dropWhile Unicode.isBlank) else .error .badRepeatCount
  | (none, _) => .error .badRepeatCount

/-- The counts of a repetition after its opening brace, up to the closing one. -/
def readCounts (verbose : Bool) (s : List Char) :
    Except PatternError ((Nat × Option Nat) × List Char) := do
  let (least, rest) ← readCount verbose (skipIgnored verbose s)
  match rest with
  | '}' :: rest => return ((least, some least), rest)
  | ',' :: rest =>
    match skipIgnored verbose rest with
    | '}' :: rest => return ((least, none), rest)
    | rest =>
      match ← readCount verbose rest with
      | (most, '}' :: rest) =>
        if least ≤ most then return ((least, some most), rest) else .error .badRepeatCount
      | _ => .error .badRepeatCount
  | _ => .error .badRepeatCount

/-- A question mark after a repetition makes it lazy. -/
def takeGreed : List Char → Bool × List Char
  | '?' :: rest => (false, rest)
  | s => (true, s)

/-- Whether a group may have a name. A name begins with a letter or an underscore; digits, dots and
brackets may follow. -/
def isGroupName (name : List Char) : Bool :=
  let isLetter := fun c : Char =>
    if c.val < 0x80 then c.isAlpha
    else ((Unicode.namedSet? "Alphabetic").any (·.contains c))
  let isNumber := fun c : Char =>
    if c.val < 0x80 then c.isDigit else ((Unicode.namedSet? "N").any (·.contains c))
  match name with
  | [] => false
  | c :: rest =>
    (c == '_' || isLetter c) &&
      rest.all fun c => ['_', '.', '[', ']'].contains c || isLetter c || isNumber c

/-- Reads what follows an opening parenthesis: a group opens, or flags change. -/
def readGroup (r : Reading) (s : List Char) : Except PatternError (Reading × List Char) :=
  let named := fun (s : List Char) => do
    match s.span (· != '>') with
    | (name, '>' :: rest) =>
      let text := String.ofList name
      if !isGroupName name then .error .badGroupName
      else if r.groupNames.contains text then .error (.repeatedGroupName text)
      else return ({ r.openCapture with groupNames := text :: r.groupNames }, rest)
    | _ => .error .badGroupName
  match skipIgnored r.flags.verbose s with
  | '?' :: '=' :: _ | '?' :: '!' :: _ | '?' :: '<' :: '=' :: _ | '?' :: '<' :: '!' :: _ =>
    .error .lookAround
  | '?' :: 'P' :: '<' :: rest => named rest
  | '?' :: '<' :: rest => named rest
  | '?' :: rest =>
    match rest.span fun c => c != ':' && c != ')' with
    | (letters, ':' :: rest) => do
      return (r.openGroup (← r.flags.apply true [] letters), rest)
    | (letters, ')' :: rest) => do
      if letters.isEmpty then .error .nothingToRepeat
      else
        let flags ← r.flags.apply true [] letters
        let parts := Part.flagChange :: r.level.parts
        return ({ r with level := { r.level with flags := flags, parts := parts } }, rest)
    | _ => .error .badFlags
  | s => .ok (r.openCapture, s)

/-- The set that a dot stands for. -/
def dotSet (flags : Flags) : Except PatternError CharSet :=
  if !flags.unicode then .error .splitsCharacters
  else if flags.dotAll then .ok (.compl .none)
  else if flags.crlf then .ok (.except ['\r', '\n'])
  else .ok (.except ['\n'])

/-- Reads one part of a pattern that is outside classes and begins with `c`. -/
def readPart (r : Reading) (c : Char) (rest : List Char) :
    Except PatternError (Reading × List Char) :=
  let turns := fun (least : Nat) (most : Option Nat) (rest : List Char) => do
    let (greedy, rest) := takeGreed rest
    return (← r.repeatLast least most greedy, rest)
  match c with
  | '(' => readGroup r rest
  | ')' => return (← r.closeGroup, rest)
  | '|' => return ({ r with level := r.level.nextAlternative }, rest)
  | '[' =>
    let (opened, rest) := openClass r.flags.verbose rest
    return ({ r with classes := [opened] }, rest)
  | '?' => turns 0 (some 1) rest
  | '*' => turns 0 none rest
  | '+' => turns 1 none rest
  | '\x7b' => do
    let ((least, most), rest) ← readCounts r.flags.verbose rest
    turns least most (skipIgnored r.flags.verbose rest)
  | '\\' => do
    let (atom, rest) ← readEscape r.flags rest
    return (← r.addAtom atom, rest)
  | '.' => return (r.add (.set (← dotSet r.flags)) 0, rest)
  | '^' =>
    return (r.add (.look (if r.flags.multiLine then .lineStart r.flags.crlf else .textStart)) 0,
      rest)
  | '$' =>
    return (r.add (.look (if r.flags.multiLine then .lineEnd r.flags.crlf else .textEnd)) 0, rest)
  | c => return (r.addChar c, rest)

/-- Reads one part of a pattern. -/
def readStep (r : Reading) (c : Char) (rest : List Char) :
    Except PatternError (Reading × List Char) :=
  match r.classes with
  | [] => readPart r c rest
  | inner :: outer => do
    match ← readClassPart r.flags inner outer (c :: rest) with
    | (.reading classes, rest) => return ({ r with classes := classes }, rest)
    | (.finished set, rest) =>
      return ({ r with classes := [] }.add (.set set.value) set.depth, rest)

/-- Reads the parts of a pattern, at most `budget` of them. -/
def readParts (budget : Nat) (r : Reading) (s : List Char) : Except PatternError Reading :=
  match budget, skipIgnored r.flags.verbose s with
  | _, [] => .ok r
  | 0, _ => .ok r
  | budget + 1, c :: rest => do
    let (r, rest) ← readStep r c rest
    readParts budget r rest

/-- How deeply the parts of a pattern may be nested. -/
def depthLimit : Nat := 250

/-- Reads a pattern. Every part takes a character at least, so the length of the text is budget
enough. -/
def readExpression (s : List Char) : Except PatternError Expression := do
  let r ← readParts s.length ⟨⟨{}, none, [], []⟩, [], [], 0, []⟩ s
  if !r.classes.isEmpty then .error .unclosedClass
  else if !r.outer.isEmpty then .error .unclosedGroup
  else
    let whole := r.level.expression
    if whole.depth > depthLimit then .error .tooDeep
    else if !whole.value.simplify.fits then .error .tooLarge
    else return whole.value

/-- The regular expression of a pattern. -/
def compile (pattern : String) : Except PatternError PlainRegex :=
  (readExpression pattern.toList).map Expression.toRegex

end SnippetLint.Pattern
