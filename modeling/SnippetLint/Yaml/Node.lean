import SnippetLint.Yaml.Token

/-!
# Nodes

A YAML text as a tree of scalars, sequences and mappings. A node may have an anchor, and an alias
elsewhere stands for that node; an alias is kept as the number of its anchor and looked up in the
document.

The number of an anchor is the number of different names before it, so an anchor whose name has
been used already has the same number as the next new one. An alias has the number that its name
has where the alias stands, and stands for the last node of the document with that number.
-/

namespace SnippetLint.Yaml

/-- A node of a tree. -/
inductive Node
  | scalar (tag : Option (List Char)) (style : ScalarStyle) (text : List Char)
  | sequence (items : List Node)
  | mapping (entries : List (Node × Node))
  | alias (number : Nat)
  deriving Repr

/-- A scalar that is left out. -/
def Node.blank : Node := .scalar none .plain []

mutual

/-- The number of parts of a node: a scalar and an alias are one part, and a collection has a start
and an end besides its items. -/
def Node.size : Node → Nat
  | .scalar _ _ _ | .alias _ => 1
  | .sequence items => 2 + sizeOfItems items
  | .mapping entries => 2 + sizeOfEntries entries

/-- The number of parts of some nodes. -/
def sizeOfItems : List Node → Nat
  | [] => 0
  | item :: items => item.size + sizeOfItems items

/-- The number of parts of some entries. -/
def sizeOfEntries : List (Node × Node) → Nat
  | [] => 0
  | (key, value) :: entries => key.size + value.size + sizeOfEntries entries

end

/-! ## Anchors -/

/-- The anchors of a text that has been read up to some place. -/
structure Anchors where
  /-- The numbers of the names. -/
  numbers : List (List Char × Nat) := []
  /-- The numbers of the anchors, in their order. -/
  starts : List Nat := []
  /-- The nodes that have ended, each with the place of its anchor among all anchors. -/
  nodes : List (Nat × Node) := []
  deriving Repr

namespace Anchors

/-- Adds an anchor. -/
def add (a : Anchors) (name : List Char) : Anchors :=
  let number := a.numbers.length
  { a with
    numbers := (name, number) :: a.numbers.filter (·.1 != name)
    starts := a.starts ++ [number] }

/-- Adds the node of the anchor that has the given place among all anchors. -/
def close (a : Anchors) (place : Nat) (node : Node) : Anchors :=
  { a with nodes := (place, node) :: a.nodes }

/-- The node that an alias with a number stands for. -/
def target? (a : Anchors) (number : Nat) : Option Node :=
  let places := (List.range a.starts.length).filter fun i => a.starts[i]? == some number
  places.getLast?.bind fun place => a.nodes.lookup place

end Anchors

/-- A text with one tree in it. -/
structure Document where
  /-- The tree; a text without a document has none. -/
  root : Option Node
  anchors : Anchors
  deriving Repr

/-- The number of parts of a document; one without a tree counts as one part. -/
def Document.size (d : Document) : Nat := d.root.elim 1 Node.size

/-! ## Reading a node -/

/-- The tokens that have not been read, and the anchors so far. -/
structure Reading where
  tokens : List Token
  anchors : Anchors := {}

/-- Reads tokens. -/
abbrev Reads := StateT Reading (Except YamlError)

namespace Reads

/-- The next token; there is none at the end of the text. -/
def peek : Reads (Option Token) := return (← get).tokens.head?

/-- Goes over the next token. -/
def advance : Reads Unit := modify fun r => { r with tokens := r.tokens.drop 1 }

/-- Goes over the next token if it is `t`, and says whether it was. -/
def accept (t : Token) : Reads Bool := do
  if (← peek) == some t then
    advance
    return true
  else return false

/-- Whether the next token is one of some tokens. -/
def atOneOf (ts : List Token) : Reads Bool := return (← peek).any ts.contains

/-- The number of the anchor with a name. -/
def anchorNumber (name : List Char) : Reads Nat := do
  match (← get).anchors.numbers.lookup name with
  | some number => return number
  | none => throw (.unknownAnchor (.ofList name))

/-- The texts that tag handles stand for. -/
abbrev Handles := List (List Char × List Char)

/-- The tag that a handle and a suffix are written for. -/
def resolveTag (handles : Handles) (handle suffix : List Char) : Except YamlError (List Char) :=
  if handle.isEmpty then .ok suffix
  else match handles.lookup handle with
    | some text => .ok (text ++ suffix)
    | none => .error .undefinedTagHandle

/-- An anchor, if there is one. -/
def anchor? : Reads (Option (List Char)) := do
  match ← peek with
  | some (.anchor name) =>
    advance
    return some name
  | _ => return none

/-- A tag, if there is one. -/
def tag? (handles : Handles) : Reads (Option (List Char)) := do
  match ← peek with
  | some (.tag handle suffix) =>
    advance
    return some (← resolveTag handles handle suffix)
  | _ => return none

/-- The anchor and the tag before a node, in either order. -/
def properties (handles : Handles) : Reads (Option (List Char) × Option (List Char)) := do
  match ← anchor? with
  | some name => return (some name, ← tag? handles)
  | none =>
    let tag ← tag? handles
    return (← anchor?, tag)

/-- A scalar with a tag. The tag that is an exclamation mark alone does not count. -/
def taggedScalar (tag : Option (List Char)) (style : ScalarStyle) (text : List Char) : Node :=
  .scalar (tag.filter (· != ['!'])) style text

mutual

/-- Reads a node. Block collections are there outside flow collections only; `bare` says that the
entries of a block sequence may come without an indentation of their own. -/
def node (handles : Handles) (inBlock bare : Bool) (fuel : Nat) : Reads Node := do
  match fuel with
  | 0 => throw .missingNode
  | fuel + 1 =>
    if let some (.alias name) ← peek then
      advance
      return .alias (← anchorNumber name)
    let (anchor, tag) ← properties handles
    let place := (← get).anchors.starts.length
    if let some name := anchor then
      modify fun r => { r with anchors := r.anchors.add name }
    let result ← match ← peek with
      | some (.scalar style text) => do
        advance
        pure (taggedScalar tag style text)
      | some .flowSequenceStart => do
        advance
        pure (.sequence (← flowItems handles true fuel))
      | some .flowMappingStart => do
        advance
        pure (.mapping (← flowEntries handles true fuel))
      | next => do
        if bare && next == some .blockEntry then
          pure (.sequence (← bareItems handles fuel))
        else if inBlock && next == some .sequenceStart then
          advance
          pure (.sequence (← blockItems handles fuel))
        else if inBlock && next == some .mappingStart then
          advance
          pure (.mapping (← blockEntries handles fuel))
        else if anchor.isSome || tag.isSome then pure (.scalar tag .plain [])
        else throw .missingNode
    if anchor.isSome then
      modify fun r => { r with anchors := r.anchors.close place result }
    return result

/-- Reads a node that is left out if one of some tokens comes next. -/
def nodeUnless (ends : List Token) (handles : Handles) (inBlock bare : Bool) (fuel : Nat) :
    Reads Node := do
  match fuel with
  | 0 => throw .missingNode
  | fuel + 1 =>
    if ← atOneOf ends then return .blank else node handles inBlock bare fuel

/-- Reads the items of a block sequence. -/
def blockItems (handles : Handles) (fuel : Nat) : Reads (List Node) := do
  match fuel with
  | 0 => throw .missingEntry
  | fuel + 1 =>
    if ← accept .blockEntry then
      let item ← nodeUnless [.blockEntry, .blockEnd] handles true false fuel
      return item :: (← blockItems handles fuel)
    else if ← accept .blockEnd then return []
    else throw .missingEntry

/-- Reads the items of a block sequence without an indentation of its own. -/
def bareItems (handles : Handles) (fuel : Nat) : Reads (List Node) := do
  match fuel with
  | 0 => throw .missingEntry
  | fuel + 1 =>
    if ← accept .blockEntry then
      let item ← nodeUnless [.blockEntry, .key, .value, .blockEnd] handles true false fuel
      return item :: (← bareItems handles fuel)
    else return []

/-- Reads the entries of a block mapping. -/
def blockEntries (handles : Handles) (fuel : Nat) : Reads (List (Node × Node)) := do
  match fuel with
  | 0 => throw .missingEntry
  | fuel + 1 =>
    let ends := [Token.key, .value, .blockEnd]
    if ← accept .key then
      let key ← nodeUnless ends handles true true fuel
      let value ←
        if ← accept .value then nodeUnless ends handles true true fuel else pure .blank
      return (key, value) :: (← blockEntries handles fuel)
    else if ← accept .blockEnd then return []
    else throw .missingEntry

/-- Reads the items of a flow sequence; all but the first have a separator before them. A key makes
an item a mapping with one entry. If the key itself is left out, the token after it does not
count. -/
def flowItems (handles : Handles) (first : Bool) (fuel : Nat) : Reads (List Node) := do
  match fuel with
  | 0 => throw .missingSeparator
  | fuel + 1 =>
    if ← accept .flowSequenceEnd then return []
    unless first || (← accept .flowEntry) do throw .missingSeparator
    if ← accept .key then
      let key ←
        if ← atOneOf [.value, .flowEntry, .flowSequenceEnd] then
          advance
          pure Node.blank
        else node handles false false fuel
      let value ←
        if ← accept .value then
          nodeUnless [.flowEntry, .flowSequenceEnd] handles false false fuel
        else pure .blank
      return .mapping [(key, value)] :: (← flowItems handles false fuel)
    else if ← accept .flowSequenceEnd then return []
    else
      let item ← node handles false false fuel
      return item :: (← flowItems handles false fuel)

/-- Reads the entries of a flow mapping; all but the first have a separator before them. A node
without a key's indicator has no value. -/
def flowEntries (handles : Handles) (first : Bool) (fuel : Nat) :
    Reads (List (Node × Node)) := do
  match fuel with
  | 0 => throw .missingSeparator
  | fuel + 1 =>
    if ← accept .flowMappingEnd then return []
    unless first || (← accept .flowEntry) do throw .missingSeparator
    if ← accept .key then
      let key ← nodeUnless [.value, .flowEntry, .flowMappingEnd] handles false false fuel
      let value ←
        if ← accept .value then
          nodeUnless [.flowEntry, .flowMappingEnd] handles false false fuel
        else pure .blank
      return (key, value) :: (← flowEntries handles false fuel)
    else if ← accept .flowMappingEnd then return []
    else
      let key ← node handles false false fuel
      return (key, .blank) :: (← flowEntries handles false fuel)

end

/-! ## Reading a document -/

/-- Goes over the directives before a document and gathers the tag handles. -/
def directives (hasVersion : Bool) (handles : Handles) : List Token → Reads Handles
  | .versionDirective major minor :: rest => do
    if hasVersion || major != 1 || (minor != 1 && minor != 2) then throw .badDirective
    advance
    directives true handles rest
  | .tagDirective handle text :: rest => do
    if handles.any (·.1 == handle) then throw .badDirective
    advance
    directives hasVersion (handles ++ [(handle, text)]) rest
  | _ => return handles

/-- The tag handles that are there without a directive. -/
def defaultHandles : Handles :=
  [(['!'], ['!']), (['!', '!'], "tag:yaml.org,2002:".toList)]

/-- Whether a token is a directive. -/
def isDirective : Token → Bool
  | .versionDirective _ _ | .tagDirective _ _ => true
  | _ => false

/-- Goes over the marks that end a document. -/
def documentEnds : List Token → Reads Unit
  | .documentEnd :: rest => do
    advance
    documentEnds rest
  | _ => return

/-- Reads a text with at most one document. -/
def document (fuel : Nat) : Reads (Option Node) := do
  match ← peek with
  | none => return none
  | some first =>
    let root ←
      if isDirective first || first == .documentStart then do
        let handles ← directives false [] (← get).tokens
        unless ← accept .documentStart do throw .missingDocumentStart
        match ← peek with
        | none => pure .blank
        | some next =>
          if isDirective next || next == .documentStart || next == .documentEnd then
            pure .blank
          else node (handles ++ defaultHandles) true false fuel
      else node defaultHandles true false fuel
    documentEnds (← get).tokens
    if (← peek).isSome then throw .severalDocuments else return some root

end Reads

/-- The document in a text. Each step of reading either goes over a token or is one of three before
the next that does. -/
def Document.ofText (text : List Char) : Except YamlError Document := do
  let tokens ← Token.ofText text
  let (root, rest) ← (Reads.document (4 * tokens.length + 4)).run { tokens }
  return ⟨root, rest.anchors⟩

end SnippetLint.Yaml
