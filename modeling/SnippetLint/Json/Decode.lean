import SnippetLint.Json.Value

/-!
# Decoding JSON values

What the values of this library have in common when they are read from JSON. A record is an
object, of which unknown members do not count, or the list of its values in order. A name is a
string, or an object whose one member has that name and no value. Numbers are natural numbers
within bounds; nothing is converted.
-/

namespace SnippetLint

/-- The reasons for which a JSON value cannot be decoded. -/
inductive DecodeError
  | expected (what : String)
  | missing (field : String)
  | repeated (field : String)
  | outOfRange (n : Nat)
  | unknownName (name : String)
  | tooManyValues
  deriving Repr, DecidableEq

/-- What is said about a value that cannot be decoded. -/
def DecodeError.message : DecodeError → String
  | expected what => "expected " ++ what
  | missing field => "missing field " ++ field
  | repeated field => "duplicate field " ++ field
  | outOfRange n => "number out of range: " ++ decimal n
  | unknownName name => "unknown variant " ++ name
  | tooManyValues => "too many values"

namespace Json

/-- A value that is decoded, or the reason why not. -/
abbrev Decoded (α : Type) := Except DecodeError α

/-- A string. -/
def asString : Json → Decoded String
  | string s => .ok s
  | _ => .error (.expected "a string")

/-- A truth value. -/
def asBool : Json → Decoded Bool
  | bool b => .ok b
  | _ => .error (.expected "a boolean")

/-- A natural number below a bound. -/
def asNatBelow (bound : Nat) : Json → Decoded Nat
  | nat n => if n < bound then .ok n else .error (.outOfRange n)
  | _ => .error (.expected "a natural number")

/-- A byte. -/
def asByte (j : Json) : Decoded UInt8 := (j.asNatBelow UInt8.size).map Nat.toUInt8

/-- A word of 64 bits. -/
def asWord (j : Json) : Decoded Nat := j.asNatBelow UInt64.size

/-- A list. -/
def asList {α : Type} (decode : Json → Decoded α) : Json → Decoded (List α)
  | array items => items.mapM decode
  | _ => .error (.expected "a list")

/-- A value that may be absent. -/
def asOption {α : Type} (decode : Json → Decoded α) : Json → Decoded (Option α)
  | null => .ok none
  | j => (decode j).map some

/-- One of the values of an enumeration, by its name. -/
def asName {α : Type} (all : List α) (name : α → String) (j : Json) : Decoded α :=
  let find := fun text => match all.find? (name · == text) with
    | some a => .ok a
    | none => .error (.unknownName text)
  match j with
  | string s => find s
  | object [(key, null)] => find key
  | _ => .error (.expected "a name")

/-- The fields of a record: each may be there or not. -/
abbrev Fields := String → Option Json

/-- The fields of an object. None of `names` may occur twice. -/
def objectFields (names : List String) (members : List (String × Json)) : Decoded Fields :=
  match names.find? fun name => 1 < members.countP (·.1 == name) with
  | some name => .error (.repeated name)
  | none => .ok fun name => members.lookup name

/-- The fields of a record with the given names, in order. -/
def record (names : List String) : Json → Decoded Fields
  | object members => objectFields names members
  | array values =>
    if names.length < values.length then .error .tooManyValues
    else .ok fun name => (names.zip values).lookup name
  | _ => .error (.expected "an object")

/-- A field that must be there. -/
def Fields.required {α : Type} (fields : Fields) (name : String) (decode : Json → Decoded α) :
    Decoded α :=
  match fields name with
  | some value => decode value
  | none => .error (.missing name)

/-- A field that has a value by default. -/
def Fields.withDefault {α : Type} (fields : Fields) (name : String) (default : α)
    (decode : Json → Decoded α) : Decoded α :=
  match fields name with
  | some value => decode value
  | none => .ok default

/-- An optional value as JSON. -/
def ofOption {α : Type} (encode : α → Json) : Option α → Json
  | none => null
  | some a => encode a

end Json

end SnippetLint
