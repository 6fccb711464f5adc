import SnippetLint.Unicode.Age
import SnippetLint.Unicode.Binary
import SnippetLint.Unicode.Break
import SnippetLint.Unicode.Category
import SnippetLint.Unicode.RangeTable
import SnippetLint.Unicode.Script

/-!
# Character properties by name

`namedSet?` finds the characters that a name such as `Lu`, `Greek` or `Alphabetic` stands for, and
`valueSet?` those that a property has at a value, such as `Script` at `Greek`. Names are compared
without regard to case, blanks, dashes and underscores, and an `is` in front is passed over.
-/

namespace SnippetLint.Unicode

/-- A name without an `is` in front, in any case. -/
def withoutIs : List Char → List Char
  | 'i' :: 's' :: rest | 'I' :: 's' :: rest | 'i' :: 'S' :: rest | 'I' :: 'S' :: rest => rest
  | name => name

/-- What is compared of a name: its letters in lower case and its other ASCII characters, without
spaces, dashes and underscores and without an `is` in front. The abbreviation `isc` stays whole. -/
def looseName (name : String) : String :=
  let bare := withoutIs name.toList
  let kept := (bare.filter fun c => c.val < 0x80 && !([' ', '-', '_'].contains c)).map Char.toLower
  if kept = ['c'] && bare.length < name.length then "isc" else .ofList kept

/-- Whether a list of names separated by blanks has the loosely spelled `name`. -/
def nameListed (name : String) (names : String) : Bool :=
  (names.splitOn " ").any fun n => looseName n == looseName name

/-- The table kept in `entries` under a name. -/
def tableNamed? (entries : List (String × String)) (name : String) : Option RangeTable :=
  (entries.find? fun entry => nameListed name entry.1).map fun entry => .ofText entry.2

/-- The union of the tables of `entries` whose first name passes a test, as one table after
another. -/
def tablesWhere (entries : List (String × String)) (test : String → Bool) : List RangeTable :=
  (entries.filter fun entry => test (((entry.1.splitOn " ").head?).getD "")).map
    fun entry => .ofText entry.2

/-- The general categories that gather others, with the first letters of what they gather. -/
def gatheredCategories : List (String × List String) :=
  [("L Letter", ["Lu", "Ll", "Lt", "Lm", "Lo"]), ("LC Cased_Letter", ["Lu", "Ll", "Lt"]),
   ("M Mark Combining_Mark", ["Mn", "Mc", "Me"]), ("N Number", ["Nd", "Nl", "No"]),
   ("P Punctuation punct", ["Pc", "Pd", "Ps", "Pe", "Pi", "Pf", "Po"]),
   ("S Symbol", ["Sm", "Sc", "Sk", "So"]), ("Z Separator", ["Zs", "Zl", "Zp"])]

/-- A set of characters that is the union of some tables, or what such a union leaves out. -/
structure NamedSet where
  tables : List RangeTable
  negated : Bool

namespace NamedSet

/-- Membership in a named set. -/
def contains (s : NamedSet) (c : Char) : Bool :=
  s.tables.any (·.contains c.toNat) != s.negated

/-- The set of one table. -/
def ofTable (t : RangeTable) : NamedSet := ⟨[t], false⟩

/-- The members of a set as one table. -/
def toTable (s : NamedSet) : RangeTable :=
  let members := RangeTable.ofRanges s.tables.flatten
  if s.negated then members.complement else members

end NamedSet

/-- The assigned characters, as the tables of all general categories. -/
def assigned : List RangeTable := tablesWhere categories fun _ => true

/-- The general category, or union of general categories, of a name. -/
def category? (name : String) : Option NamedSet :=
  match looseName name with
  | "any" => some ⟨[], true⟩
  | "assigned" => some ⟨assigned, false⟩
  | "ascii" => some (.ofTable [(0, 0x7F)])
  | "cn" | "unassigned" => some ⟨assigned, true⟩
  | "c" | "other" =>
    some ⟨tablesWhere categories fun n => n != "Cc" && n != "Cf" && n != "Co", true⟩
  | _ =>
    match gatheredCategories.find? fun entry => nameListed name entry.1 with
    | some (_, parts) => some ⟨tablesWhere categories (parts.contains ·), false⟩
    | none => (tableNamed? categories name).map .ofTable

/-- The characters of a script. -/
def script? (entries : List (String × String)) (name : String) : Option NamedSet :=
  (tableNamed? entries name).map .ofTable

/-- The characters that a property name, a general category or a script stands for. Three
abbreviations name a category although a property has them too. -/
def namedSet? (name : String) : Option NamedSet :=
  let property :=
    if ["cf", "sc", "lc"].contains (looseName name) then none
    else (tableNamed? binaryProperties name).map NamedSet.ofTable
  (property <|> category? name) <|> script? scripts name

/-- Whether a character is alphabetic or a number. -/
def isAlphanumeric (c : Char) : Bool :=
  c.isAlphanum || (0x80 ≤ c.val &&
    ((namedSet? "Alphabetic").any (·.contains c) || (category? "Number").any (·.contains c)))

/-- The characters assigned in an edition of the standard or before. -/
def age? (name : String) : Option NamedSet :=
  if ages.any fun entry => nameListed name entry.1 then
    let upTo := ages.takeWhile (fun entry => !nameListed name entry.1) ++
      (ages.find? fun entry => nameListed name entry.1).toList
    some ⟨tablesWhere upTo fun _ => true, false⟩
  else none

/-- The characters at which a property has a value. -/
def valueSet? (property value : String) : Option NamedSet :=
  match looseName property with
  | "gc" | "generalcategory" => category? value
  | "sc" | "script" => script? scripts value
  | "scx" | "scriptextensions" => script? scriptExtensions value
  | "age" => age? value
  | "gcb" | "graphemeclusterbreak" => (tableNamed? graphemeBreaks value).map .ofTable
  | "wb" | "wordbreak" => (tableNamed? wordBreaks value).map .ofTable
  | "sb" | "sentencebreak" => (tableNamed? sentenceBreaks value).map .ofTable
  | _ => none

end SnippetLint.Unicode
