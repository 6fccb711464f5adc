import SnippetLint.Pattern.Escape

/-!
# Bracketed classes

A class in brackets is a union of characters, ranges, named sets and nested classes; `&&`, `--`
and `~~` combine what stands before them with what follows. Classes that are still open are kept
innermost first, and `readClassPart` reads one more part of the innermost.
-/

namespace SnippetLint.Pattern

/-- A set and how deeply its parts are nested. -/
structure Nested (α : Type) where
  value : α
  depth : Nat

/-- The operators between the parts of a class. -/
inductive SetOperation
  | intersection
  | difference
  | symmetricDifference
  deriving Repr, DecidableEq

/-- The set that an operator makes of two sets. -/
def SetOperation.apply : SetOperation → CharSet → CharSet → CharSet
  | intersection => .inter
  | difference => .diff
  | symmetricDifference => .symmDiff

/-- A class whose closing bracket has not been read. -/
structure OpenClass where
  negated : Bool
  /-- Nothing but leading dashes has been read. -/
  atStart : Bool
  /-- What stands before the last operator, and that operator. -/
  left : Option (Nested CharSet × SetOperation)
  /-- The parts since the last operator, last first. -/
  parts : List (Nested CharSet)

namespace OpenClass

/-- Adds a part. -/
def add (c : OpenClass) (s : CharSet) (depth : Nat) : OpenClass :=
  { c with atStart := false, parts := ⟨s, depth⟩ :: c.parts }

/-- The union of the parts since the last operator. -/
def union (c : OpenClass) : Nested CharSet :=
  match c.parts with
  | [] => ⟨.none, 0⟩
  | [part] => part
  | parts =>
    ⟨.unionAll (parts.reverse.map (·.value)), 1 + (parts.map (·.depth)).foldl max 0⟩

/-- All that has been read: the last operator is applied to what stands on both its sides. -/
def combined (c : OpenClass) (flags : Flags) : Nested CharSet :=
  let right := c.union
  match c.left with
  | none => right
  | some (left, operation) =>
    ⟨operation.apply (flags.withCase left.value) (flags.withCase right.value),
      1 + max left.depth right.depth⟩

/-- Ends the left side of an operator. -/
def operate (c : OpenClass) (flags : Flags) (operation : SetOperation) : OpenClass :=
  { c with atStart := false, left := some (c.combined flags, operation), parts := [] }

/-- The set of a class whose closing bracket is read. -/
def close (c : OpenClass) (flags : Flags) : Except PatternError (Nested CharSet) :=
  let inner := c.combined flags
  let set := flags.withCase inner.value
  if c.negated then
    if flags.unicode then .ok ⟨set.negate, inner.depth + 1⟩ else .error .splitsCharacters
  else .ok ⟨set, inner.depth + 1⟩

end OpenClass

/-- The ASCII set with a name, as written between `[:` and `:]`. -/
def asciiClass? (name : String) : Option CharSet :=
  match name with
  | "alnum" => some (.union .asciiDigit .asciiLetter)
  | "alpha" => some .asciiLetter
  | "ascii" => some .ascii
  | "blank" => some (.chars ['\t', ' '])
  | "cntrl" => some (.union (.range '\x00' '\x1f') (.single '\x7f'))
  | "digit" => some .asciiDigit
  | "graph" => some (.range '!' '~')
  | "lower" => some (.range 'a' 'z')
  | "print" => some (.range ' ' '~')
  | "punct" => some (.unionAll [.range '!' '/', .range ':' '@', .range '[' ('\x60'),
      .range '\x7b' '~'])
  | "space" => some .asciiBlank
  | "upper" => some (.range 'A' 'Z')
  | "word" => some .asciiWord
  | "xdigit" => some (.unionAll [.asciiDigit, .range 'a' 'f', .range 'A' 'F'])
  | _ => none

/-- Reads a named ASCII set after its `[:`. What is no such set is read as a nested class. -/
def readAsciiClass? (s : List Char) : Option (Bool × CharSet × List Char) :=
  let (negated, s) := match s with
    | '^' :: rest => (true, rest)
    | _ => (false, s)
  match s.span (· != ':') with
  | (name, ':' :: ']' :: rest) =>
    (asciiClass? (.ofList name)).map fun set => (negated, set, rest)
  | _ => none

/-- Opens a class after its opening bracket. -/
def openClass (verbose : Bool) (s : List Char) : OpenClass × List Char :=
  match skipIgnored verbose s with
  | '^' :: rest => (⟨true, true, none, []⟩, rest)
  | s => (⟨false, true, none, []⟩, s)

/-- A character that a class may hold: without Unicode, an ASCII one. -/
def classChar (flags : Flags) (c : Char) : Except PatternError Char :=
  if flags.unicode || c.val < 0x80 then .ok c else .error .splitsCharacters

/-- Reads one character or set of a class. -/
def readClassAtom (flags : Flags) : List Char → Except PatternError (Atom × List Char)
  | [] => .error .unclosedClass
  | '\\' :: rest => readEscape flags rest
  | c :: rest => .ok (.char c false, rest)

/-- The set that an atom stands for in a class. -/
def Atom.classSet (flags : Flags) : Atom → Except PatternError CharSet
  | char c _ => (classChar flags c).map .single
  | set s => .ok s
  | look _ => .error .notInClass

/-- The character that an atom stands for as an end of a range. -/
def Atom.rangeEnd (flags : Flags) : Atom → Except PatternError Char
  | char c _ => classChar flags c
  | _ => .error .badRange

/-- The character that is taken to follow a dash. In a verbose pattern, blanks and one number sign
are passed over, unless nothing else follows. -/
def afterDash? (verbose : Bool) (s : List Char) : Option Char :=
  let shown :=
    if !verbose then s
    else match s.dropWhile Unicode.isBlank with
      | '#' :: rest => rest.dropWhile Unicode.isBlank
      | rest => rest
  shown.head? <|> s.head?

/-- Reads a character, a set or a range. A dash before the closing bracket, or before another dash,
makes no range. -/
def readClassRange (flags : Flags) (s : List Char) :
    Except PatternError (CharSet × List Char) := do
  let (first, rest) ← readClassAtom flags s
  let single := fun rest => (first.classSet flags).map (·, rest)
  match skipIgnored flags.verbose rest with
  | [] => .error .unclosedClass
  | '-' :: rest =>
    match afterDash? flags.verbose rest with
    | some ']' | some '-' => single ('-' :: rest)
    | _ => do
      let (last, rest) ← readClassAtom flags (skipIgnored flags.verbose rest)
      let low ← first.rangeEnd flags
      let high ← last.rangeEnd flags
      if low ≤ high then return (.range low high, rest) else .error .badRange
  | rest => single rest

/-- The operator at the front of a text. -/
def operator? : List Char → Option (SetOperation × List Char)
  | '&' :: '&' :: rest => some (.intersection, rest)
  | '-' :: '-' :: rest => some (.difference, rest)
  | '~' :: '~' :: rest => some (.symmetricDifference, rest)
  | _ => none

/-- What reading one part of a class leads to: classes that are still open, innermost first, or
the set of the outermost class. -/
inductive ClassProgress
  | reading (open_ : List OpenClass)
  | finished (set : Nested CharSet)

/-- Reads one part of the innermost class `inner`, which stands in the classes `outer`. -/
def readClassPart (flags : Flags) (inner : OpenClass) (outer : List OpenClass) (s : List Char) :
    Except PatternError (ClassProgress × List Char) :=
  let go := fun (c : OpenClass) rest => .ok (.reading (c :: outer), rest)
  match s with
  | [] => .error .unclosedClass
  | c :: rest =>
    if inner.atStart && c == '-' then
      go { inner.add (.single '-') 0 with atStart := true } rest
    else if inner.atStart && inner.parts.isEmpty && c == ']' then
      go (inner.add (.single ']') 0) rest
    else match c, operator? s with
      | _, some (operation, rest) => go (inner.operate flags operation) rest
      | '[', none =>
        let nested := match rest with
          | ':' :: name => readAsciiClass? name
          | _ => none
        match nested with
        | some (negated, set, rest) =>
          let set := flags.withCase set
          if !negated then go (inner.add set 0) rest
          else if flags.unicode then go (inner.add (.compl set) 0) rest
          else .error .splitsCharacters
        | none =>
          let (innermost, rest) := openClass flags.verbose rest
          .ok (.reading (innermost :: { inner with atStart := false } :: outer), rest)
      | ']', none => do
        let set ← inner.close flags
        match outer with
        | [] => return (.finished set, rest)
        | parent :: outer => return (.reading (parent.add set.value set.depth :: outer), rest)
      | _, none => do
        let (set, rest) ← readClassRange flags s
        go (inner.add set 0) rest

end SnippetLint.Pattern
