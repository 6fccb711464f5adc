import SnippetLint.Pattern.Assertion
import SnippetLint.Pattern.CharSet

/-!
# Regular expressions and what they match

A regular expression is a tree; `Matches r cur stop` says that `r` matches the text from the
place `cur` to the place `stop`. The choice between two alternatives and between another turn of
a loop and its end is free in `Matches`; which way is preferred is the order in which
`SnippetLint.Pattern.Search` tries them.

Every position where a character is taken carries a note, of a type that the user of the tree
chooses; a plain expression carries none.
-/

namespace SnippetLint.Pattern

/-- A regular expression with a note at each position where it takes a character. -/
inductive Regex (α : Type) where
  /-- Matches the empty text. -/
  | empty
  /-- Matches one character of a set. -/
  | set (s : CharSet) (note : α)
  /-- Matches the empty text where an assertion holds. -/
  | look (a : Assertion)
  /-- Matches `r`, then `s`. -/
  | cat (r s : Regex α)
  /-- Matches `r` or `s`; `r` is preferred. -/
  | alt (r s : Regex α)
  /-- Matches `r` once or more; a greedy loop prefers another turn to its end. -/
  | plus (r : Regex α) (greedy : Bool)

/-- A regular expression without notes. -/
abbrev PlainRegex := Regex Unit

namespace Regex

variable {α β : Type}

/-- Changes every note. -/
def map (f : α → β) : Regex α → Regex β
  | empty => empty
  | set s note => set s (f note)
  | look a => look a
  | cat r s => cat (r.map f) (s.map f)
  | alt r s => alt (r.map f) (s.map f)
  | plus r greedy => plus (r.map f) greedy

/-- Matches `r` or the empty text. -/
def optional (r : Regex α) (greedy : Bool) : Regex α :=
  if greedy then alt r empty else alt empty r

/-- Matches `r` any number of times. -/
def star (r : Regex α) (greedy : Bool) : Regex α := (r.plus greedy).optional greedy

/-- Matches `r` exactly `n` times. -/
def exactly (r : Regex α) : Nat → Regex α
  | 0 => empty
  | 1 => r
  | n + 1 => cat r (r.exactly n)

/-- Matches `r` at most `n` times. -/
def atMost (r : Regex α) (greedy : Bool) : Nat → Regex α
  | 0 => empty
  | n + 1 => (cat r (r.atMost greedy n)).optional greedy

/-- Matches the expressions one after another. -/
def seq (rs : List (Regex α)) : Regex α :=
  match rs with
  | [] => empty
  | [r] => r
  | r :: rs => cat r (seq rs)

/-- Matches one of the characters. -/
def oneOf (s : CharSet) : PlainRegex := set s ()

/-- Matches a text as it stands. -/
def text (t : String) : PlainRegex := seq (t.toList.map fun c => oneOf (.single c))

end Regex

/-- The matches of an expression: from a place to a place. -/
inductive Matches {α : Type} : Regex α → Cursor → Cursor → Prop
  | empty (cur : Cursor) : Matches .empty cur cur
  | set {s : CharSet} {note : α} {cur : Cursor} {c : Char} {rest : List Char} :
      cur.rest = c :: rest → s.contains c = true → Matches (.set s note) cur (cur.past c rest)
  | look {a : Assertion} {cur : Cursor} : a.holds cur = true → Matches (.look a) cur cur
  | cat {r s : Regex α} {cur mid stop : Cursor} :
      Matches r cur mid → Matches s mid stop → Matches (.cat r s) cur stop
  | altLeft {r s : Regex α} {cur stop : Cursor} : Matches r cur stop → Matches (.alt r s) cur stop
  | altRight {r s : Regex α} {cur stop : Cursor} : Matches s cur stop → Matches (.alt r s) cur stop
  | plusLast {r : Regex α} {greedy : Bool} {cur stop : Cursor} :
      Matches r cur stop → Matches (.plus r greedy) cur stop
  | plusMore {r : Regex α} {greedy : Bool} {cur mid stop : Cursor} :
      Matches r cur mid → Matches (.plus r greedy) mid stop → Matches (.plus r greedy) cur stop

end SnippetLint.Pattern
