import SnippetLint.Yaml.Scalar

/-!
# Tokens

A YAML text as a sequence of tokens. Blocks have tokens for their starts and ends, which stand
where the indentation of the text changes.

A key of a mapping is recognized only at the colon after it: until then the place where a key may
have begun is remembered, one for each level of flow collections, and at the colon the tokens for
the key, and for the start of its mapping, are put in there. Such a key ends on the line where it
began and is at most 1024 characters long.
-/

namespace SnippetLint.Yaml

/-- One token. The end of the text is the end of the sequence. -/
inductive Token
  | versionDirective (major minor : Nat)
  | tagDirective (handle value : List Char)
  | documentStart
  | documentEnd
  | sequenceStart
  | mappingStart
  | blockEnd
  | flowSequenceStart
  | flowSequenceEnd
  | flowMappingStart
  | flowMappingEnd
  | blockEntry
  | flowEntry
  | key
  | value
  | alias (name : List Char)
  | anchor (name : List Char)
  | tag (handle suffix : List Char)
  | scalar (style : ScalarStyle) (text : List Char)
  deriving Repr, DecidableEq

/-- A place where a key may have begun. -/
structure KeyMark where
  /-- The place is where the block around it goes on, so that nothing but a key can be meant. -/
  required : Bool
  /-- The number of tokens before it. -/
  tokenCount : Nat
  line : Nat
  column : Nat
  index : Nat
  deriving Repr

/-- A text that has been read up to some place. -/
structure Scan where
  /-- More than the number of characters of the whole text. -/
  limit : Nat
  place : Place
  /-- The tokens, last one first. -/
  tokens : List Token
  tokenCount : Nat
  /-- One more than the indentation of the innermost block; zero outside all blocks. -/
  level : Nat
  /-- The levels of the blocks around it, innermost first. -/
  outerLevels : List Nat
  /-- A key may begin at the next token. -/
  keyAllowed : Bool
  /-- Where a key may have begun outside flow collections, if it may. -/
  blockKey : Option KeyMark
  /-- The same for each flow collection that is open, innermost first. -/
  flowKeys : List (Option KeyMark)

namespace Scan

/-- A text that has not been read. -/
def start (text : List Char) : Scan :=
  ⟨text.length + 1, .start text, [], 0, 0, [], true, none, []⟩

/-- Whether a flow collection is open. -/
def inFlow (s : Scan) : Bool := !s.flowKeys.isEmpty

/-- Where a key may have begun in the innermost collection. -/
def keyMark (s : Scan) : Option KeyMark :=
  match s.flowKeys with
  | mark :: _ => mark
  | [] => s.blockKey

/-- Sets where a key may have begun in the innermost collection. -/
def setKeyMark (s : Scan) (mark : Option KeyMark) : Scan :=
  match s.flowKeys with
  | _ :: outer => { s with flowKeys := mark :: outer }
  | [] => { s with blockKey := mark }

/-- Adds a token. -/
def push (s : Scan) (t : Token) : Scan :=
  { s with tokens := t :: s.tokens, tokenCount := s.tokenCount + 1 }

/-- Adds a token and goes over its characters. -/
def pushOver (s : Scan) (t : Token) (length : Nat) : Scan :=
  { s.push t with place := s.place.skip length }

/-- Puts a token in after the first `count` tokens. -/
def insert (s : Scan) (count : Nat) (t : Token) : Scan :=
  { s with tokens := s.tokens.insertIdx (s.tokenCount - count) t
           tokenCount := s.tokenCount + 1 }

/-! ## Keys -/

/-- A key that has become too long, or has not ended on its line. -/
def isStale (place : Place) (mark : KeyMark) : Bool :=
  mark.line < place.line || mark.index + 1024 < place.index

/-- Forgets where a key may have begun if that is too far back. -/
def dropIfStale (place : Place) (mark : Option KeyMark) : Except YamlError (Option KeyMark) :=
  match mark with
  | some m =>
    if isStale place m then if m.required then .error .missingColon else .ok none else .ok mark
  | none => .ok none

/-- Forgets all places where a key may have begun that are too far back. -/
def dropStaleKeys (s : Scan) : Except YamlError Scan := do
  let blockKey ← dropIfStale s.place s.blockKey
  let flowKeys ← s.flowKeys.mapM (dropIfStale s.place)
  return { s with blockKey := blockKey, flowKeys := flowKeys }

/-- Forgets where a key may have begun in the innermost collection. -/
def dropKey (s : Scan) : Except YamlError Scan :=
  match s.keyMark with
  | some m => if m.required then .error .missingColon else .ok (s.setKeyMark none)
  | none => .ok s

/-- Remembers the present place as one where a key may begin, if one may. -/
def markKey (s : Scan) : Except YamlError Scan :=
  if !s.keyAllowed then .ok s
  else do
    let mark : KeyMark :=
      { required := !s.inFlow && s.level == s.place.column + 1
        tokenCount := s.tokenCount
        line := s.place.line, column := s.place.column, index := s.place.index }
    return (← s.dropKey).setKeyMark (some mark)

/-! ## Indentation -/

/-- Starts a block at a column if that is deeper than the block around. The token for the start is
put in after `count` tokens. -/
def indentTo (s : Scan) (column count : Nat) (t : Token) : Scan :=
  if s.inFlow || column + 1 ≤ s.level then s
  else { s.insert count t with level := column + 1, outerLevels := s.level :: s.outerLevels }

/-- Ends the blocks that are deeper than a level. -/
def closeBlocks (s : Scan) (level : Nat) : List Nat → Scan
  | [] => s
  | outer :: rest =>
    if s.inFlow || s.level ≤ level then s
    else closeBlocks { s.push .blockEnd with level := outer, outerLevels := rest } level rest

/-- Ends the blocks that are deeper than a level. -/
def unindentTo (s : Scan) (level : Nat) : Scan := s.closeBlocks level s.outerLevels

/-! ## Between tokens -/

/-- Goes over blanks, comments and ends of lines. A tab may separate tokens where no key may begin,
and a byte order mark may stand at the front of a line. -/
def skipToToken (fuel : Nat) (s : Scan) : Scan :=
  match fuel with
  | 0 => s
  | fuel + 1 =>
    let afterMark :=
      if s.place.column == 0 && s.place.rest.head? == some '\ufeff' then s.place.skip 1 else s.place
    let isSpace := fun c => c == ' ' || (c == '\t' && (s.inFlow || !s.keyAllowed))
    let place := afterMark.skipWhile isSpace
    let place :=
      if place.rest.head? == some '#' then place.skipWhile (!isBreak ·) else place
    match place.rest with
    | c :: _ =>
      if isBreak c then
        skipToToken fuel { s with
          place := place.skip (breakLength place.rest)
          keyAllowed := s.keyAllowed || !s.inFlow }
      else { s with place := place }
    | [] => { s with place := place }

/-! ## Directives, anchors and tags -/

/-- The number at the front of a text: at most nine digits. -/
def readVersionNumber (s : List Char) : Except YamlError (Nat × List Char) :=
  let digits := s.takeWhile Char.isDigit
  if digits.isEmpty || 9 < digits.length then .error .badDirective
  else
    .ok (digits.foldl (fun n c => 10 * n + (c.toNat - '0'.toNat)) 0, s.dropWhile Char.isDigit)

/-- The characters of a tag, apart from escape sequences. In angle brackets, brackets and commas
are among them. -/
def isTagChar (bracketed : Bool) (c : Char) : Bool :=
  isNameChar c ||
    [';', '/', '?', ':', '@', '&', '=', '+', '$', '.', '!', '~', '*', '\'', '(', ')'].contains c ||
    (bracketed && [',', '[', ']'].contains c)

/-- The byte that an escape sequence of a tag stands for. -/
def tagByte? : List Char → Option (Nat × List Char)
  | '%' :: a :: b :: rest => (Text.hexNumber? [a, b]).map (·, rest)
  | _ => none

/-- The bytes that go on a character, `count` of them, added to its bits. -/
def tagCharRest (bits : Nat) : Nat → List Char → Except YamlError (Nat × List Char)
  | 0, s => .ok (bits, s)
  | count + 1, s =>
    match tagByte? s with
    | some (byte, rest) =>
      if byte / 64 = 2 then tagCharRest (bits * 64 + byte % 64) count rest else .error .badTag
    | none => .error .badTag

/-- The character that escape sequences of a tag stand for, byte by byte in UTF-8. -/
def readTagEscape (s : List Char) : Except YamlError (Char × List Char) := do
  match tagByte? s with
  | none => .error .badTag
  | some (byte, rest) =>
    let (bits, rest) ←
      if byte < 0x80 then .ok (byte, rest)
      else if byte / 32 = 6 then tagCharRest (byte % 32) 1 rest
      else if byte / 16 = 14 then tagCharRest (byte % 16) 2 rest
      else if byte / 8 = 30 then tagCharRest (byte % 8) 3 rest
      else .error .badTag
    return ((Text.charOfCodePoint? bits).getD '\ufffd', rest)

/-- The characters of a tag at the front of a text. -/
def readTagText (bracketed : Bool) (fuel : Nat) (s : List Char) :
    Except YamlError (List Char × List Char) :=
  match fuel, s with
  | 0, s => .ok ([], s)
  | _, [] => .ok ([], [])
  | fuel + 1, c :: rest =>
    if c == '%' then do
      let (d, rest) ← readTagEscape s
      let (text, rest) ← readTagText bracketed fuel rest
      return (d :: text, rest)
    else if isTagChar bracketed c then do
      let (text, rest) ← readTagText bracketed fuel rest
      return (c :: text, rest)
    else .ok ([], s)

/-- The characters of a tag at the front of a text, of which there is one at least. -/
def readTagText1 (bracketed : Bool) (s : List Char) : Except YamlError (List Char × List Char) := do
  let (text, rest) ← readTagText bracketed s.length s
  if text.isEmpty then throw .badTag else return (text, rest)

/-- A tag handle at the front of a text: an exclamation mark, and name characters between it and
another one, which may be missing. -/
def readTagHandle : List Char → Except YamlError (List Char × List Char)
  | '!' :: rest =>
    let name := rest.takeWhile isNameChar
    match rest.dropWhile isNameChar with
    | '!' :: rest => .ok ('!' :: name ++ ['!'], rest)
    | rest => .ok ('!' :: name, rest)
  | _ => .error .badTag

/-- Reads a directive after its percent sign. -/
def readDirective (s : List Char) : Except YamlError (Token × List Char) := do
  let name := s.takeWhile isNameChar
  let rest := s.dropWhile isNameChar
  if name.isEmpty || !startsBlank rest then throw .badDirective
  let rest := rest.dropWhile isBlank
  let (token, rest) ←
    if name == "YAML".toList then do
      let (major, rest) ← readVersionNumber rest
      match rest with
      | '.' :: rest => do
        let (minor, rest) ← readVersionNumber rest
        pure (Token.versionDirective major minor, rest)
      | _ => throw .badDirective
    else if name == "TAG".toList then do
      let (handle, rest) ← readTagHandle rest
      if handle != ['!'] && (handle.length == 1 || handle.getLast? != some '!') then
        throw .badDirective
      match rest with
      | c :: _ =>
        if !isBlank c then throw .badDirective
        let (value, rest) ← readTagText1 true (rest.dropWhile isBlank)
        if !startsBlank rest then throw .badDirective
        pure (.tagDirective handle value, rest)
      | [] => throw .badDirective
    else throw .badDirective
  let rest := rest.dropWhile isBlank
  let rest := if rest.head? == some '#' then rest.dropWhile (!isBreak ·) else rest
  if startsBreak rest then return (token, (takeBreak rest).2) else throw .badDirective

/-- Reads the name of an anchor or an alias. -/
def readAnchorName (s : List Char) : Except YamlError (List Char) :=
  let name := s.takeWhile isNameChar
  let rest := s.dropWhile isNameChar
  let ends := startsBlank rest ||
    rest.head?.any ['?', ':', ',', ']', '\x7d', '%', '@', '\x60'].contains
  if name.isEmpty || !ends then .error .badAnchor else .ok name

/-- Reads a tag after its exclamation mark. A tag without a handle has the handle `!`, and a mark
alone is a tag by itself. -/
def readTag (inFlow : Bool) (s : List Char) : Except YamlError (Token × List Char) := do
  let (token, rest) ← match s with
    | '<' :: rest => do
      match ← readTagText1 true rest with
      | (text, '>' :: rest) => pure (Token.tag [] text, rest)
      | _ => throw .badTag
    | _ => do
      let (handle, rest) ← readTagHandle ('!' :: s)
      if 2 ≤ handle.length && handle.getLast? == some '!' then
        let (suffix, rest) ← readTagText1 false rest
        pure (.tag handle suffix, rest)
      else
        let (text, rest) ← readTagText false rest.length rest
        let suffix := handle.drop 1 ++ text
        pure (if suffix.isEmpty then .tag [] ['!'] else .tag ['!'] suffix, rest)
  if startsBlank rest || (inFlow && rest.head? == some ',') then return (token, rest)
  else throw .badTag

/-! ## Reading a token -/

/-- Adds a token that does not begin a key, and goes over its characters. -/
def addMark (s : Scan) (t : Token) (length : Nat) (keyAllowed : Bool) : Except YamlError Scan := do
  let s ← s.dropKey
  return { s.pushOver t length with keyAllowed := keyAllowed }

/-- Adds a token that may begin a key, and goes over its characters. -/
def addNode (s : Scan) (t : Token) (length : Nat) : Except YamlError Scan := do
  let s ← s.markKey
  return { s.pushOver t length with keyAllowed := false }

/-- Opens a flow collection. -/
def openFlow (s : Scan) (t : Token) : Except YamlError Scan := do
  let s ← s.markKey
  return { s.pushOver t 1 with flowKeys := none :: s.flowKeys, keyAllowed := true }

/-- Closes a flow collection. -/
def closeFlow (s : Scan) (t : Token) : Except YamlError Scan := do
  let s ← s.dropKey
  return { s.pushOver t 1 with flowKeys := s.flowKeys.drop 1, keyAllowed := false }

/-- Adds an indicator of an entry of a block sequence, which may start the sequence. -/
def addBlockEntry (s : Scan) : Except YamlError Scan := do
  if !s.inFlow && !s.keyAllowed then throw .entryNotAllowed
  let s := s.indentTo s.place.column s.tokenCount .sequenceStart
  s.addMark .blockEntry 1 true

/-- Adds an indicator of a key, which may start a block mapping. -/
def addKey (s : Scan) : Except YamlError Scan := do
  if !s.inFlow && !s.keyAllowed then throw .keyNotAllowed
  let s := s.indentTo s.place.column s.tokenCount .mappingStart
  s.addMark .key 1 !s.inFlow

/-- Adds an indicator of a value. If a key may have begun before it, that was one. -/
def addValue (s : Scan) : Except YamlError Scan := do
  match s.keyMark with
  | some mark =>
    let s := s.insert mark.tokenCount .key
    let s := s.indentTo mark.column mark.tokenCount .mappingStart
    return { (s.setKeyMark none).pushOver .value 1 with keyAllowed := false }
  | none =>
    if !s.inFlow && !s.keyAllowed then throw .valueNotAllowed
    let s := s.indentTo s.place.column s.tokenCount .mappingStart
    return { s.pushOver .value 1 with keyAllowed := !s.inFlow }

/-- Adds a block scalar. -/
def addBlockScalar (s : Scan) (literal : Bool) (after : List Char) : Except YamlError Scan := do
  let s ← s.dropKey
  let (text, rest) ← readBlock literal s.level s.limit after
  let token := Token.scalar (if literal then .literal else .folded) text
  return { s.push token with place := s.place.goTo rest, keyAllowed := true }

/-- Adds a quoted scalar. -/
def addQuoted (s : Scan) (single : Bool) (after : List Char) : Except YamlError Scan := do
  let (text, length) ← readQuoted single s.limit 1 [] {} false after
  s.addNode (.scalar (if single then .singleQuoted else .doubleQuoted) text) length

/-- Adds a plain scalar. After an end of a line a key may begin again. -/
def addPlain (s : Scan) : Except YamlError Scan := do
  let scalar ← readPlain s.inFlow s.level s.limit 0 [] {} s.place.column s.place.rest
  let s ← s.addNode (.scalar .plain scalar.text) scalar.length
  return { s with keyAllowed := scalar.endedLine }

/-- Whether a plain scalar may begin with a text. -/
def startsPlain (inFlow : Bool) : List Char → Bool
  | [] => false
  | c :: rest =>
    let isIndicator := ['-', '?', ':', ',', '[', ']', '\x7b', '\x7d', '#', '&', '*', '!', '|', '>',
      '\'', '"', '%', '@', '\x60'].contains c
    (!isIndicator && !isBlank c) || (c == '-' && !(rest.head?.any isBlank)) ||
      (!inFlow && (c == '?' || c == ':') && !startsBlank rest)

/-- Reads the token that begins with `c`. -/
def readToken (s : Scan) (c : Char) (rest : List Char) : Except YamlError Scan := do
  if s.place.column == 0 && c == '%' then
    let s ← (s.unindentTo 0).dropKey
    let (token, rest) ← readDirective rest
    return { s.push token with place := s.place.goTo rest, keyAllowed := false }
  if s.place.column == 0 && startsDocumentMark s.place.rest then
    (s.unindentTo 0).addMark (if c == '-' then .documentStart else .documentEnd) 3 false
  else match c with
    | '[' => s.openFlow .flowSequenceStart
    | '\x7b' => s.openFlow .flowMappingStart
    | ']' => s.closeFlow .flowSequenceEnd
    | '\x7d' => s.closeFlow .flowMappingEnd
    | ',' => s.addMark .flowEntry 1 true
    | '*' =>
      let name ← readAnchorName rest
      s.addNode (.alias name) (name.length + 1)
    | '&' =>
      let name ← readAnchorName rest
      s.addNode (.anchor name) (name.length + 1)
    | '!' =>
      let (token, after) ← readTag s.inFlow rest
      s.addNode token (s.place.rest.length - after.length)
    | '\'' => s.addQuoted true rest
    | '"' => s.addQuoted false rest
    | _ =>
      if c == '-' && startsBlank rest then s.addBlockEntry
      else if c == '?' && (s.inFlow || startsBlank rest) then s.addKey
      else if c == ':' && (s.inFlow || startsBlank rest) then s.addValue
      else if c == '|' && !s.inFlow then s.addBlockScalar true rest
      else if c == '>' && !s.inFlow then s.addBlockScalar false rest
      else if startsPlain s.inFlow s.place.rest then s.addPlain
      else throw (.unexpectedCharacter c)

/-- Ends the text: all blocks end, and no key may be left without its colon. -/
def finish (s : Scan) : Except YamlError (List Token) := do
  let place := s.place
  let ended : Place :=
    if place.column == 0 then place else { place with line := place.line + 1, column := 0 }
  let s ← ({ s with place := ended }.unindentTo 0).dropKey
  return s.tokens.reverse

/-- Reads the tokens of the rest of a text, at most `budget` of them. -/
def readTokens (budget : Nat) (s : Scan) : Except YamlError (List Token) := do
  let s ← (s.skipToToken s.limit).dropStaleKeys
  let s := s.unindentTo (s.place.column + 1)
  match budget, s.place.rest with
  | _, [] => s.finish
  | 0, _ => s.finish
  | budget + 1, c :: rest => readTokens budget (← s.readToken c rest)

end Scan

/-- The tokens of a text. Every token has a character at least, so the length of the text is budget
enough. -/
def Token.ofText (text : List Char) : Except YamlError (List Token) :=
  match text.find? (!isAllowed ·) with
  | some c => .error (.forbiddenCharacter c)
  | none => (Scan.start text).readTokens text.length

end SnippetLint.Yaml
