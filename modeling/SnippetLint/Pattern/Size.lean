import Std.Data.HashMap
import SnippetLint.Pattern.ByteRange
import SnippetLint.Pattern.Simplified

/-!
# The size of a pattern

A pattern is refused if the automaton that would look for it is too large, or the one that would
look for it backwards, from the end of a text to its start. Both read bytes. Here the automata are
built as far as their sizes go: a fragment of an automaton is known by whether its last state is a
fork, since a link from a fork takes room and a link from another state does not.

Parts that the forms of several characters have in common are made once, as long as a table of
fixed size remembers them; a later part may drive an earlier one out of its place there.
-/

namespace SnippetLint.Pattern

open Unicode

/-- The size of an automaton that is being built. -/
structure AutomatonSize where
  /-- The number of states, which is also the number that the next state gets. -/
  states : Nat
  /-- The room in bytes that states take beside the room that all states take. -/
  extra : Nat
  deriving Repr, DecidableEq

namespace AutomatonSize

/-- The room that every state takes, in bytes. -/
def stateSize : Nat := 32

/-- The room of a link from a fork, in bytes. -/
def linkSize : Nat := 4

/-- The room of a link that is taken for the bytes of a range, in bytes. -/
def edgeSize : Nat := 8

/-- The room that an automaton takes, in bytes. -/
def bytes (size : AutomatonSize) : Nat := size.states * stateSize + size.extra

/-- The largest room that an automaton may take. -/
def limit : Nat := 10 * 1024 * 1024

end AutomatonSize

/-- Building an automaton, which fails if it becomes too large. -/
abbrev Build := StateT AutomatonSize Option

namespace Build

/-- Adds a state that takes `extra` bytes more than all states do, and tells its number. -/
def state (extra : Nat) : Build Nat := fun size =>
  let grown : AutomatonSize := ⟨size.states + 1, size.extra + extra⟩
  if grown.bytes ≤ AutomatonSize.limit then some (size.states, grown) else none

/-- Adds a link from a state, which is a fork or not. -/
def link (fork : Bool) : Build Unit := fun size =>
  let grown := if fork then { size with extra := size.extra + AutomatonSize.linkSize } else size
  if grown.bytes ≤ AutomatonSize.limit then some ((), grown) else none

/-- Fragments one after another, `count` more after one that ends with a fork or not. -/
def timesMore (part : Build Bool) (fork : Bool) : Nat → Build Bool
  | 0 => pure fork
  | count + 1 => do
    let next ← part
    link fork
    timesMore part next count

/-- Fragments one after another, `count` of them; none is a state by itself. -/
def times (part : Build Bool) : Nat → Build Bool
  | 0 => do
    let _ ← state 0
    return false
  | count + 1 => do
    let fork ← part
    timesMore part fork count

/-- Up to `count` optional fragments after one that ends with a fork or not, all of which can go on
at the same state. -/
def optionalTimes (part : Build Bool) (fork : Bool) : Nat → Build Bool
  | 0 => do
    link fork
    return false
  | count + 1 => do
    let _ ← state 0
    let next ← part
    link fork
    link true
    link true
    optionalTimes part next count

/-- A fragment that can be left out. -/
def optional (part : Build Bool) : Build Bool := do
  let _ ← state 0
  let fork ← part
  let _ ← state 0
  link true
  link true
  link fork
  return false

/-- A loop of any number of turns. A turn that may take nothing needs a fork of its own at its
end. -/
def loop (takes : Bool) (part : Build Bool) : Build Bool :=
  if takes then do
    let _ ← state 0
    let fork ← part
    link true
    link fork
    return true
  else do
    let fork ← part
    let _ ← state 0
    link fork
    link true
    let _ ← state 0
    let _ ← state 0
    link true
    link true
    link true
    return false

/-- `count` fragments and one more, which may be gone through again and again. -/
def loopAfter (part : Build Bool) (count : Nat) : Build Bool := do
  let fork ← times part (count + 1)
  let _ ← state 0
  link fork
  link true
  return true

/-- The bytes of a text one after another. -/
def text (chars : List Char) : Build Bool :=
  times (do let _ ← state 0; return false) (chars.flatMap String.utf8EncodeChar).length

/-! ### Sets -/

/-- The place of a key in a table of `places` places. -/
def place (places : UInt64) (key : List UInt64) : UInt64 :=
  (key.foldl (fun h n => (h ^^^ n) * 1099511628211) 14695981039346656037) % places

/-- A link for the bytes of a range to a state. -/
structure Edge where
  range : ByteRange
  target : Nat
  deriving Repr, DecidableEq

/-- The states that are remembered by their links. -/
abbrev StateTable := Std.HashMap UInt64 (List Edge × Nat)

/-- A state with these links; one that is remembered is not made again. -/
def shared (edges : List Edge) : StateT StateTable Build Nat := do
  let key := edges.flatMap fun e =>
    [e.range.first.toUInt64, e.range.last.toUInt64, e.target.toUInt64]
  let at_ := place 10000 key
  match (← get)[at_]? with
  | some (known, number) => if known = edges then return number
  | none => pure ()
  let number ← state (edges.length * AutomatonSize.edgeSize)
  modify (·.insert at_ (edges, number))
  return number

/-- The states for sequences of byte ranges, which come in order and have at most `depth` ranges;
all lead to one state. Neighbours that begin with the same range have their first link in common. -/
def branching (target : Nat) : Nat → List (List ByteRange) → StateT StateTable Build Nat
  | 0, _ => pure target
  | depth + 1, sequences => do
    let edges ← (sequences.splitBy fun s t => s.head? == t.head?).filterMapM fun run => do
      match run with
      | (range :: more) :: _ =>
        let next ← if more.isEmpty then pure target else branching target depth (run.map List.tail)
        return some (Edge.mk range next)
      | _ => return none
    shared edges

/-- The states of a set of characters for reading forwards. -/
def setForwards (members : RangeTable) : Build Unit := do
  let target ← state 0
  let _ ← (branching target 4 (ByteRange.sequencesOf members)).run ∅

/-- The states that are remembered by the state that they lead to and the bytes that they read. -/
abbrev StepTable := Std.HashMap UInt64 ((Nat × ByteRange) × Nat)

/-- A state that reads the bytes of a range and leads to `target`; one that is remembered is not
made again. -/
def sharedStep (target : Nat) (range : ByteRange) : StateT StepTable Build Nat := do
  let at_ := place 1000 [target.toUInt64, range.first.toUInt64, range.last.toUInt64]
  match (← get)[at_]? with
  | some (known, number) => if known = (target, range) then return number
  | none => pure ()
  let number ← state 0
  modify (·.insert at_ ((target, range), number))
  return number

/-- The states of a set of characters for reading backwards: a fork to the last byte of every
sequence. -/
def setBackwards (members : RangeTable) : Build Unit := do
  let _ ← state 0
  let target ← state 0
  let _ ← ((ByteRange.sequencesOf members).forM fun sequence => do
    let _ ← sequence.foldlM sharedStep target
    link true : StateT StepTable Build Unit).run ∅

/-- The states of a set of bytes that is written with `count` ranges. -/
def ranges (count : Nat) : Build Bool := do
  let _ ← state 0
  let _ ← state (count * AutomatonSize.edgeSize)
  return false

/-- The states of a set of characters. -/
def set (backwards : Bool) (members : RangeTable) : Build Bool :=
  if members.all fun (_, last) => last < 0x80 then ranges members.length
  else do
    if backwards then setBackwards members else setForwards members
    return false

/-! ### Choices -/

/-- The words that begin with each byte, without that byte, in the order in which the bytes first
appear. -/
def byFirstByte (words : List (List UInt8)) : List (List (List UInt8)) :=
  (words.filterMap List.head?).eraseDups.map fun b =>
    words.filterMap fun
      | [] => none
      | c :: rest => if c = b then some rest else none

/-- The words up to each empty word, and those after the last. -/
def splitAtEmpty : List (List UInt8) → List (List (List UInt8))
  | [] => [[]]
  | [] :: rest => [] :: splitAtEmpty rest
  | word :: rest =>
    match splitAtEmpty rest with
    | chunk :: chunks => (word :: chunk) :: chunks
    | [] => [[word]]

/-- The words of a choice up to each place where a preferred word ends. At the start, several empty
words are as good as one. -/
def chunks : List (List UInt8) → List (List (List UInt8))
  | [] :: rest => splitAtEmpty ([] :: rest.dropWhile List.isEmpty)
  | words => splitAtEmpty words

/-- The states of a choice of words, of which none has more than `depth` bytes, read byte by byte.
Words with a common front share its states up to the place where a preferred word ends. -/
def words : Nat → List (List UInt8) → Build Unit
  | 0, _ => pure ()
  | depth + 1, choices => do
    let chunks := (chunks choices).map byFirstByte
    chunks.forM fun groups => do
      groups.forM fun group => unless group.all List.isEmpty do words depth group
      unless groups.isEmpty do
        let _ ← state (if groups.length = 1 then 0 else groups.length * AutomatonSize.edgeSize)
    let links := (chunks.filter fun groups => !groups.isEmpty).length + (chunks.length - 1)
    unless links = 1 do
      let _ ← state (links * AutomatonSize.linkSize)

/-- The states of a choice between fragments: after the second one come the fork at the start and
the state where all end. -/
def oneOf : List (Build Bool) → Build Unit
  | first :: second :: rest => do
    let firstFork ← first
    let secondFork ← second
    let _ ← state 0
    let _ ← state 0
    [firstFork, secondFork].forM close
    rest.forM fun part => do close (← part)
  | parts => parts.forM fun part => do let _ ← part
where
  /-- The links to the start of a fragment and from its end. -/
  close (fork : Bool) : Build Unit := do
    link true
    link fork

end Build

namespace Simplified

open Build

/-- The bytes of a text, as they are met when reading forwards or backwards. -/
def bytes? (backwards : Bool) : Simplified → Option (List UInt8)
  | text (c :: chars) =>
    let bytes := (c :: chars).flatMap String.utf8EncodeChar
    some (if backwards then bytes.reverse else bytes)
  | _ => none

/-- The fragment of an expression, given those of its branches. Several texts share states. -/
def ofBranches (backwards : Bool) (r : Simplified) : List (Build Bool) → Build Bool
  | [part] => part
  | parts => do
    match r.branches.mapM (bytes? backwards) with
    | some choices =>
      let _ ← state 0
      words ((choices.map List.length).foldl max 0) choices
    | none => Build.oneOf parts
    return false

/-- The fragments of the branches of an expression. A captured group has a state at its start and
one at its end; nothing is captured backwards. -/
def fragments (backwards : Bool) : Simplified → List (Build Bool)
  | text chars => [Build.text chars]
  | set members => [Build.set backwards members]
  | look _ => [do
    let _ ← state 0
    return false]
  | group _ r => [do
    if backwards then ofBranches backwards r (r.fragments backwards)
    else
      let _ ← state 0
      let fork ← ofBranches backwards r (r.fragments backwards)
      let _ ← state 0
      link fork
      return false]
  | cat r s => [do
    let r := ofBranches backwards r (r.fragments backwards)
    let s := ofBranches backwards s (s.fragments backwards)
    let fork ← if backwards then s else r
    let last ← if backwards then r else s
    link fork
    return last]
  | turns r least most _ =>
    let part := ofBranches backwards r (r.fragments backwards)
    [match least, most with
    | 0, none => loop (r.alwaysTakes == some true) part
    | n + 1, none => loopAfter part n
    | 0, some 1 => optional part
    | least, some most => do
      let fork ← times part least
      if most ≤ least then return fork
      else
        let _ ← state 0
        optionalTimes part fork (most - least)]
  | alt r s => ofBranches backwards r (r.fragments backwards) :: s.fragments backwards

/-- Builds the automaton that looks for an expression anywhere in a text. -/
def automaton (backwards : Bool) (r : Simplified) : Build Unit := do
  let anchored := if backwards then r.stopsAtEnd else r.startsAtStart
  if anchored then
    let _ ← state 0
  else
    let _ ← loop true (ranges 1)
  let whole := group 0 r
  let fork ← ofBranches backwards whole (whole.fragments backwards)
  let _ ← state 0
  link fork
  link (!anchored)

/-- Whether the automaton for an expression, and the one for it backwards, are not too large. -/
def fits (r : Simplified) : Bool :=
  [false, true].all fun backwards => ((r.automaton backwards).run ⟨0, 0⟩).isSome

end Simplified

end SnippetLint.Pattern
