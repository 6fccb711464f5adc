import SnippetLint.Yaml.Node

/-!
# Decoding YAML values

What the values of this library have in common when they are read from YAML. Texts are taken as
they are written, whatever they look like. A list or a record that is left out is empty, but an
explicit null is neither. Numbers are natural numbers within bounds, in plain spelling.

Decoding counts how often it goes from an alias to its node, since a short text can stand for a
large value: `Document.decode` refuses a document of which too much is repeated.
-/

namespace SnippetLint.Yaml

/-- A value that is decoded, or the reason why not. The state is the number of aliases that have
been gone through. -/
abbrev Decoded (α : Type) := StateT Nat (Except YamlError) α

/-- A node of a document in which aliases are looked up. -/
structure Value where
  node : Node
  anchors : Anchors

/-- The value of a document; one that is absent counts as left out. -/
def Document.value (d : Document) : Value := ⟨d.root.getD .blank, d.anchors⟩

namespace Value

/-- The node of a value, or the one that it stands for, which is no alias itself. -/
def resolve (v : Value) : Decoded Node := do
  match v.node with
  | .alias number =>
    modify (· + 1)
    return (v.anchors.target? number).getD v.node
  | node => return node

/-- Any scalar, as it is written. -/
def asText (v : Value) : Decoded String := do
  match ← v.resolve with
  | .scalar _ _ text => return .ofList text
  | _ => throw (.expected "a text")

/-- A list; one that is left out is empty. -/
def asList {α : Type} (decode : Value → Decoded α) (v : Value) : Decoded (List α) := do
  match ← v.resolve with
  | .sequence items => items.mapM fun item => decode ⟨item, v.anchors⟩
  | .scalar _ .plain [] => return []
  | _ => throw (.expected "a list")

/-- The value of a digit, below the base. -/
def digit? (base : Nat) (c : Char) : Option Nat := (Text.hexValue? c).filter (· < base)

/-- A number in some base, of one digit at least. -/
def digits? (base : Nat) (s : List Char) : Option Nat :=
  if s.isEmpty then none
  else s.foldlM (fun n c => (digit? base c).map (base * n + ·)) 0

/-- A natural number: in decimal digits, of which the first is not a superfluous zero, or in
another base after the mark of that base. A plus sign may stand in front of it all. -/
def natural? (s : List Char) : Option Nat :=
  let unsigned := if s.head? == some '+' then s.drop 1 else s
  match unsigned with
  | '0' :: 'x' :: rest => digits? 16 rest
  | '0' :: 'o' :: rest => digits? 8 rest
  | '0' :: 'b' :: rest => digits? 2 rest
  | '0' :: _ :: _ => none
  | _ => digits? 10 unsigned

/-- The tag of numbers. -/
def numberTag : List Char := "tag:yaml.org,2002:int".toList

/-- A natural number below a bound. A scalar in literal spelling is a number only if its tag says
so. -/
def asNatBelow (bound : Nat) (v : Value) : Decoded Nat := do
  let read := fun text => match natural? text with
    | some n => if n < bound then return n else throw (.outOfRange n)
    | none => throw (.expected "a natural number")
  match ← v.resolve with
  | .scalar _ .plain text => read text
  | .scalar (some tag) .literal text =>
    if tag == numberTag then read text else throw (.expected "a natural number")
  | _ => throw (.expected "a natural number")

/-- A byte. -/
def asByte (v : Value) : Decoded UInt8 := return (← v.asNatBelow UInt8.size).toUInt8

/-- A word of 64 bits. -/
def asWord (v : Value) : Decoded Nat := v.asNatBelow UInt64.size

/-- Whether a text is a word for nothing. -/
def isNull (s : List Char) : Bool :=
  ["null", "Null", "NULL", "~"].any (·.toList == s)

/-- The tag of words for nothing. -/
def nullTag : List Char := "tag:yaml.org,2002:null".toList

/-- A value that may be absent: left out, or a word for nothing in plain spelling. -/
def asOption {α : Type} (decode : Value → Decoded α) (v : Value) : Decoded (Option α) := do
  let node ← v.resolve
  let present := some <$> decode ⟨node, v.anchors⟩
  match node with
  | .scalar none .plain text => if text.isEmpty || isNull text then return none else present
  | .scalar (some tag) .plain text =>
    if tag != nullTag then present
    else if isNull text then return none
    else throw (.expected "null")
  | _ => present

/-- One of the values of an enumeration, by its name: a scalar, or a local tag with nothing after
it. -/
def asName {α : Type} (all : List α) (name : α → String) (v : Value) : Decoded α := do
  let find := fun text => match all.find? (name · == text) with
    | some a => return a
    | none => throw (.unknownName text)
  match ← v.resolve with
  | .scalar (some ('!' :: rest)) style text =>
    if style == .plain && (text.isEmpty || isNull text) then
      find (.ofList (if rest.isEmpty then ['!'] else rest))
    else throw (.expected "a name")
  | .scalar _ _ text => find (.ofList text)
  | _ => throw (.expected "a name")

/-- The fields of a record: each may be there or not. -/
abbrev Fields := String → Option Value

/-- The fields of a mapping with the given names. None of them may occur twice, and members with
other names do not count. A record that is left out has no fields. -/
def record (names : List String) (v : Value) : Decoded Fields := do
  match ← v.resolve with
  | .mapping entries => do
    let members ← entries.mapM fun (key, value) => do
      return (← asText ⟨key, v.anchors⟩, (⟨value, v.anchors⟩ : Value))
    match names.find? fun name => 1 < members.countP (·.1 == name) with
    | some name => throw (.repeatedField name)
    | none => return fun name => members.lookup name
  | .scalar _ .plain [] => return fun _ => none
  | _ => throw (.expected "a mapping")

/-- A field that must be there. -/
def Fields.required {α : Type} (fields : Fields) (name : String) (decode : Value → Decoded α) :
    Decoded α :=
  match fields name with
  | some value => decode value
  | none => throw (.missingField name)

/-- A field that has a value by default. -/
def Fields.withDefault {α : Type} (fields : Fields) (name : String) (default : α)
    (decode : Value → Decoded α) : Decoded α :=
  match fields name with
  | some value => decode value
  | none => return default

end Value

/-- How often decoding may go from an alias to its node for each part of a document. -/
def repetitionLimit : Nat := 100

/-- Decodes the value of a document, unless too much of it is repeated. -/
def Document.decode {α : Type} (d : Document) (decode : Value → Decoded α) :
    Except YamlError α := do
  let (value, followed) ← (decode d.value).run 0
  if repetitionLimit * d.size < followed then throw .tooMuchRepeated else return value

end SnippetLint.Yaml
