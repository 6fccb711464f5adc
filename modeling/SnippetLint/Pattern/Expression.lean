import SnippetLint.Pattern.Regex

/-!
# Expressions as they are written

A pattern is read into an expression, in which a counted repetition is still one node, so that its
size can be judged before the regular expression is built.
-/

namespace SnippetLint.Pattern

/-- A pattern as it is written. -/
inductive Expression
  | empty
  | set (s : CharSet)
  | look (a : Assertion)
  /-- A group; one that captures has a number. -/
  | group (number : Option Nat) (r : Expression)
  | cat (r s : Expression)
  | alt (r s : Expression)
  /-- At least `least` and, if there is a limit, at most `most` turns of `r`. -/
  | turns (r : Expression) (least : Nat) (most : Option Nat) (greedy : Bool)

namespace Expression

/-- Whether an expression can match nothing but the empty text. -/
def takesNothing : Expression → Bool
  | empty => true
  | set _ => false
  | look _ => true
  | group _ r => r.takesNothing
  | cat r s | alt r s => r.takesNothing && s.takesNothing
  | turns r _ most _ => most == some 0 || r.takesNothing

/-- A repetition. An expression that takes nothing needs no second turn. -/
def repeated (r : Expression) (least : Nat) (most : Option Nat) (greedy : Bool) : Expression :=
  if r.takesNothing then turns r (min least 1) (some (min (most.getD 1) 1)) greedy
  else turns r least most greedy

/-- The regular expression that is written. -/
def toRegex : Expression → PlainRegex
  | empty => .empty
  | set s => .oneOf s
  | look a => .look a
  | group _ r => r.toRegex
  | cat r s => .cat r.toRegex s.toRegex
  | alt r s => .alt r.toRegex s.toRegex
  | turns r least most greedy =>
    match most, least with
    | none, 0 => r.toRegex.star greedy
    | none, 1 => r.toRegex.plus greedy
    | none, n + 2 => .cat (r.toRegex.exactly (n + 1)) (r.toRegex.plus greedy)
    | some most, 0 => r.toRegex.atMost greedy most
    | some most, n + 1 =>
      if most = n + 1 then r.toRegex.exactly most
      else .cat (r.toRegex.exactly (n + 1)) (r.toRegex.atMost greedy (most - (n + 1)))

/-- The expressions one after another. -/
def seq : List Expression → Expression
  | [] => empty
  | [r] => r
  | r :: rs => cat r (seq rs)

/-- The expressions as alternatives, the preferred one first. -/
def choice : List Expression → Expression
  | [] => empty
  | [r] => r
  | r :: rs => alt r (choice rs)

end Expression

end SnippetLint.Pattern
