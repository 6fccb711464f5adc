import SnippetLint.Pattern.Regex

/-!
# Searching a text

One sweep over the places of a text, from the last to the first, finds for every place whether a
match starts there and where the preferred match ends. Its time is proportional to the length of
the text times the size of the expression, whatever the expression is.

At each place the sweep keeps, for every position of the expression where a character is taken,
the end of the preferred way to go on *after* that position from this place: the note of the
position. From these notes it finds the end of the preferred way through the whole expression one
place further left, and the notes for that place.

A way through an expression that takes no character first needs care in loops: a turn of a loop
that takes nothing is not followed by another turn, since nothing could have changed. So an entry
into an expression is told apart into the preferred way that takes a character, tried before the
expression can be left with nothing taken, and the ways tried after.
-/

namespace SnippetLint.Pattern

/-- Where matching ends after each position of an expression, seen from one place. -/
abbrev Frontier := Regex (Option Cursor)

/-- The ways into an expression at a place, most preferred first: those that take a character,
up to the first that leaves the expression with nothing taken; whether there is such a one; and
those after it. -/
structure Entry where
  sooner : Option Cursor
  passes : Bool
  later : Option Cursor

namespace Entry

/-- The preferred end, if `onward` is where matching ends after the expression was left with
nothing taken. -/
def resolve (e : Entry) (onward : Option Cursor) : Option Cursor :=
  e.sooner <|> (if e.passes then onward else none) <|> e.later

/-- The preferred end among the ways that take a character. -/
def taken (e : Entry) : Option Cursor := e.sooner <|> e.later

/-- The ways into `e`, then, where `e` is left with nothing taken, into `f`. -/
def andThen (e f : Entry) : Entry :=
  if e.passes then ⟨e.sooner <|> f.sooner, f.passes, f.later <|> e.later⟩ else e

/-- The ways into `e`, then those into `f`. Leaving with nothing taken a second time would lead to
nothing new. -/
def orElse (e f : Entry) : Entry :=
  if e.passes then ⟨e.sooner, true, e.later <|> f.taken⟩
  else ⟨e.taken <|> f.sooner, f.passes, f.later⟩

end Entry

/-- The ways into an expression at a place, and its notes for that place if `onward` is where
matching ends after the expression from there. -/
structure Step where
  entry : Entry
  settle : (onward : Option Cursor) → Frontier

/-- One step of the sweep, from the notes of the place right of `cur`. -/
def Frontier.step (cur : Cursor) : Frontier → Step
  | .empty => ⟨⟨none, true, none⟩, fun _ => .empty⟩
  | .set s note =>
    let taken := if cur.after.any s.contains then note else none
    ⟨⟨taken, false, none⟩, fun onward => .set s onward⟩
  | .look a => ⟨⟨none, a.holds cur, none⟩, fun _ => .look a⟩
  | .cat r s =>
    let first := step cur r
    let second := step cur s
    ⟨first.entry.andThen second.entry,
      fun onward => .cat (first.settle (second.entry.resolve onward)) (second.settle onward)⟩
  | .alt r s =>
    let first := step cur r
    let second := step cur s
    ⟨first.entry.orElse second.entry, fun onward => .alt (first.settle onward) (second.settle onward)⟩
  | .plus r greedy =>
    let turn := step cur r
    let again := fun onward : Option Cursor =>
      if greedy then turn.entry.taken <|> onward else onward <|> turn.entry.taken
    ⟨turn.entry, fun onward => .plus (turn.settle (again onward)) greedy⟩

/-- The places of a text, first place first, each with the end of the preferred match that starts
there. -/
abbrev MatchTable := List (Cursor × Option Cursor)

/-- The state of a sweep: the table of the places passed and the notes of the last one. -/
structure Sweep where
  table : MatchTable
  frontier : Frontier

namespace Sweep

/-- A sweep that has not begun: nothing follows the end of a text. -/
def begin (r : PlainRegex) : Sweep := ⟨[], r.map fun _ => none⟩

/-- Moves on to a place, left of all places passed. A match that is complete ends where it is. -/
def visit (s : Sweep) (cur : Cursor) : Sweep :=
  let step := s.frontier.step cur
  ⟨(cur, step.entry.resolve (some cur)) :: s.table, step.settle (some cur)⟩

end Sweep

namespace Regex

/-- The preferred match from every place of a text. -/
def table (r : PlainRegex) (text : List Char) : MatchTable :=
  ((Cursor.trail text).foldl Sweep.visit (.begin r)).table

end Regex

/-- Where a match starts and ends. -/
structure Span where
  start : Cursor
  stop : Cursor
  deriving Repr, DecidableEq

namespace MatchTable

/-- The match that starts leftmost. -/
def first? : MatchTable → Option Span
  | [] => none
  | (cur, some stop) :: _ => some ⟨cur, stop⟩
  | (_, none) :: rest => first? rest

/-- The matches that follow one another from the byte offset `low` on. After a match the search
goes on where it ended; an empty match right there is passed over. -/
def spansFrom (low : Nat) (afterMatch : Bool) : MatchTable → List Span
  | [] => []
  | (cur, found) :: rest =>
    if cur.offset < low then spansFrom low afterMatch rest
    else match found with
      | none => spansFrom low afterMatch rest
      | some stop =>
        if stop.offset = cur.offset ∧ cur.offset = low ∧ afterMatch then
          spansFrom low afterMatch rest
        else ⟨cur, stop⟩ :: spansFrom stop.offset true rest

/-- The matches of a text that do not overlap, leftmost first. -/
def spans (t : MatchTable) : List Span := spansFrom 0 false t

end MatchTable

namespace Regex

/-- The leftmost match in a text. -/
def find? (r : PlainRegex) (text : List Char) : Option Span := (r.table text).first?

/-- Whether a text contains a match. -/
def occursIn (r : PlainRegex) (text : List Char) : Bool := (r.find? text).isSome

/-- The matches in a text that do not overlap, leftmost first. -/
def findAll (r : PlainRegex) (text : List Char) : List Span := (r.table text).spans

end Regex

end SnippetLint.Pattern
