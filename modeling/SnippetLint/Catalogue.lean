import SnippetLint.Rule

/-!
# Catalogues of rules

A catalogue lists rules for languages. The rules of a language keep the order in which they were
added, and are applied in it.
-/

namespace SnippetLint

/-- Rules for languages, in the order in which they were added. -/
structure Catalogue where
  entries : List (Language × Rule)

namespace Catalogue

/-- The catalogue without rules. -/
def empty : Catalogue := ⟨[]⟩

/-- Adds a rule after all others. -/
def push (c : Catalogue) (language : Language) (rule : Rule) : Catalogue :=
  ⟨c.entries ++ [(language, rule)]⟩

/-- The rules of a language. -/
def rulesFor (c : Catalogue) (language : Language) : List Rule :=
  (c.entries.filter (·.1 == language)).map (·.2)

/-- The rules of the language that a text names; there are none if it names no language. -/
def lookup (c : Catalogue) (name : String) : List Rule :=
  (Language.parse? name).elim [] c.rulesFor

/-- The number of rules of all languages. -/
def size (c : Catalogue) : Nat := c.entries.length

/-- Whether there is no rule at all. -/
def isEmpty (c : Catalogue) : Bool := c.size == 0

/-- The defects of a snippet in the language that a text names. Every rule of the language is
applied, and each reports one defect at most. -/
def detect (c : Catalogue) (code name : String) : List Defect :=
  match Language.parse? name with
  | none => []
  | some language => (c.rulesFor language).filterMap (·.defect? code language)

/-! ## Adding a rule -/

/-- A rule is the last one of its language. -/
@[simp]
theorem rulesFor_push_self (c : Catalogue) (l : Language) (r : Rule) :
    (c.push l r).rulesFor l = c.rulesFor l ++ [r] := by
  simp [push, rulesFor]

/-- A rule does not touch the rules of other languages. -/
@[simp]
theorem rulesFor_push_of_ne (c : Catalogue) {l m : Language} (h : m ≠ l) (r : Rule) :
    (c.push m r).rulesFor l = c.rulesFor l := by
  simp [push, rulesFor, h]

/-- A rule makes a catalogue longer by one. -/
@[simp]
theorem size_push (c : Catalogue) (l : Language) (r : Rule) : (c.push l r).size = c.size + 1 := by
  simp [push, size]

end Catalogue

end SnippetLint
