import SnippetLint.Pattern.Expression

/-!
# Simplified expressions

An expression is simplified before an automaton is made of it, which is where its size is measured:
neighbouring characters become one text, alternatives that take one character each become one set,
and what all alternatives begin with is put in front of them.
-/

namespace SnippetLint.Pattern

open Unicode

/-- An expression after simplification. -/
inductive Simplified
  /-- A text as it stands, which may be empty. -/
  | text (chars : List Char)
  /-- One character of a set of another size than one. -/
  | set (members : RangeTable)
  | look (a : Assertion)
  /-- A capturing group. -/
  | group (number : Nat) (r : Simplified)
  | turns (r : Simplified) (least : Nat) (most : Option Nat) (greedy : Bool)
  /-- A sequence; in a sequence of several parts, the first part and the others. -/
  | cat (r s : Simplified)
  /-- A choice; in a choice of several branches, the first branch and the others. -/
  | alt (r s : Simplified)
  deriving Repr, DecidableEq

namespace Simplified

/-- The expression that takes nothing. -/
def empty : Simplified := text []

/-- Whether an expression can match nothing but the empty text. -/
def takesNothing : Simplified → Bool
  | text chars => chars.isEmpty
  | set _ => false
  | look _ => true
  | group _ r => r.takesNothing
  | turns r _ most _ => most.isSome && r.takesNothing
  | cat r s | alt r s => r.takesNothing && s.takesNothing

/-- Whether every match takes a character; unknown if a set without members is in the way. -/
def alwaysTakes : Simplified → Option Bool
  | text chars => some !chars.isEmpty
  | set members => if members.isEmpty then none else some true
  | look _ => some false
  | group _ r => r.alwaysTakes
  | turns r least _ _ => r.alwaysTakes.map fun takes => takes && least != 0
  | cat r s => do return (← r.alwaysTakes) || (← s.alwaysTakes)
  | alt r s => do return (← r.alwaysTakes) && (← s.alwaysTakes)

/-- Whether every match starts where the text starts, as far as it can be seen. -/
def startsAtStart : Simplified → Bool
  | look a => a == .textStart
  | text _ | set _ => false
  | group _ r => r.startsAtStart
  | turns r least _ _ => least != 0 && r.startsAtStart
  | cat r s => r.startsAtStart || (r.takesNothing && s.startsAtStart)
  | alt r s => r.startsAtStart && s.startsAtStart

/-- Whether every match stops where the text ends, as far as it can be seen. -/
def stopsAtEnd : Simplified → Bool
  | look a => a == .textEnd
  | text _ | set _ => false
  | group _ r => r.stopsAtEnd
  | turns r least _ _ => least != 0 && r.stopsAtEnd
  | cat r s => s.stopsAtEnd || (s.takesNothing && r.stopsAtEnd)
  | alt r s => r.stopsAtEnd && s.stopsAtEnd

/-- The number of nodes. -/
def nodes : Simplified → Nat
  | text _ | set _ | look _ => 1
  | group _ r | turns r _ _ _ => r.nodes + 1
  | cat r s | alt r s => r.nodes + s.nodes + 1

/-- The parts of a sequence; an empty text is no part. -/
def parts : Simplified → List Simplified
  | text [] => []
  | cat r s => r.parts ++ s.parts
  | r => [r]

/-- The branches of a choice. -/
def branches : Simplified → List Simplified
  | alt r s => r.branches ++ s.branches
  | r => [r]

/-- A part in front of others; two texts become one. -/
def consPart : Simplified → List Simplified → List Simplified
  | text s, text t :: rest => text (s ++ t) :: rest
  | r, rest => r :: rest

/-- The parts one after another. -/
def sequence : List Simplified → Simplified
  | [] => empty
  | [r] => r
  | r :: rest => cat r (sequence rest)

/-- Expressions one after another. -/
def concat (rs : List Simplified) : Simplified :=
  sequence ((rs.flatMap parts).foldr consPart [])

/-- One character of a table. -/
def ofTable : RangeTable → Simplified
  | [(first, last)] => if first = last then text [.ofNat first] else set [(first, last)]
  | members => set members

/-- The set of the characters, if each branch is one character. -/
def characters? (rs : List Simplified) : Option RangeTable :=
  (rs.mapM fun
    | text [c] => some (c.toNat, c.toNat)
    | _ => none).map RangeTable.ofRanges

/-- The union of the sets, if each branch is one. -/
def sets? (rs : List Simplified) : Option RangeTable :=
  (rs.mapM fun
    | set members => some members
    | _ => none).map fun tables : List RangeTable => .ofRanges tables.flatten

/-- What two lists of parts begin with. -/
def commonFront : List Simplified → List Simplified → List Simplified
  | r :: rs, s :: ss => if r = s then r :: commonFront rs ss else []
  | _, _ => []

/-- What all branches begin with, if each is a sequence of several parts. -/
def front (rs : List Simplified) : List Simplified :=
  if rs.all fun r => 2 ≤ r.parts.length then
    match rs.map parts with
    | [] => []
    | first :: rest => rest.foldl commonFront first
  else []

/-- The branches as a choice. -/
def choice : List Simplified → Simplified
  | [] => set []
  | [r] => r
  | r :: rest => alt r (choice rest)

/-- The branches as a choice, simplified. Every time a front is taken off, the branches have fewer
nodes, which `fuel` counts. -/
def alternateWith (fuel : Nat) (rs : List Simplified) : Simplified :=
  let rs := rs.flatMap branches
  match rs with
  | [] => set []
  | [r] => r
  | _ =>
    match characters? rs, sets? rs, front rs, fuel with
    | some members, _, _, _ => ofTable members
    | none, some members, _, _ => ofTable members
    | none, none, first :: more, fuel + 1 =>
      let front := first :: more
      concat (front ++ [alternateWith fuel (rs.map fun r => concat (r.parts.drop front.length))])
    | _, _, _, _ => choice rs

/-- Expressions as alternatives, the preferred one first. One alone is no choice. -/
def oneOf : List Simplified → Simplified
  | [r] => r
  | rs => alternateWith (rs.foldl (fun n r => n + r.nodes) 0) rs

/-- At least `least` and, if there is a limit, at most `most` turns of `r`. -/
def repeated (r : Simplified) (least : Nat) (most : Option Nat) (greedy : Bool) : Simplified :=
  let (least, most) :=
    if r.takesNothing then (min least 1, some (min (most.getD 1) 1)) else (least, most)
  if most = some 0 then empty
  else if least = 1 ∧ most = some 1 then r
  else turns r least most greedy

end Simplified

namespace Expression

open Simplified

/-- The parts of a choice whose branches are given by their parts. -/
def partsOfBranches : List (List Simplified) → List Simplified
  | [parts] => parts
  | branches => (oneOf (branches.map sequence)).parts

/-- The parts of each alternative of an expression, without what an automaton has no use for. -/
def simplifyBranches : Expression → List (List Simplified)
  | empty => [[]]
  | set s => [(ofTable s.toTable).parts]
  | look a => [[.look a]]
  | group none r => [partsOfBranches r.simplifyBranches]
  | group (some number) r => [[.group number (sequence (partsOfBranches r.simplifyBranches))]]
  | turns r least most greedy =>
    [((sequence (partsOfBranches r.simplifyBranches)).repeated least most greedy).parts]
  | cat r s =>
    [(partsOfBranches r.simplifyBranches).foldr consPart (partsOfBranches s.simplifyBranches)]
  | alt r s => partsOfBranches r.simplifyBranches :: s.simplifyBranches

/-- An expression without what an automaton has no use for. -/
def simplify (r : Expression) : Simplified := sequence (partsOfBranches r.simplifyBranches)

end Expression

end SnippetLint.Pattern
