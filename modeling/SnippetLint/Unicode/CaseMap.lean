/-!
# Case mappings

A mapping of characters to characters, given by runs: a run sends its first code point to a
target, and every further one, in steps of one or two, to a target as far on.
-/

namespace SnippetLint.Unicode

/-- The code points `first`, `first + step`, … up to `last`, mapped to `target`,
`target + step`, …. -/
structure CaseRun where
  first : Nat
  last : Nat
  step : Nat
  target : Nat
  deriving Repr, DecidableEq

namespace CaseRun

/-- The code point that a run sends `n` to, if `n` belongs to the run. -/
def image? (r : CaseRun) (n : Nat) : Option Nat :=
  if r.first ≤ n ∧ n ≤ r.last ∧ (n - r.first) % r.step = 0 then some (r.target + (n - r.first))
  else none

/-- The code point that a run sends to `n`, if there is one. -/
def source? (r : CaseRun) (n : Nat) : Option Nat :=
  if r.target ≤ n ∧ n - r.target ≤ r.last - r.first ∧ (n - r.target) % r.step = 0 then
    some (r.first + (n - r.target))
  else none

/-- The code points that a run changes, each with its target. -/
def pairs (r : CaseRun) : List (Nat × Nat) :=
  (List.range ((r.last - r.first) / r.step + 1)).map fun i =>
    (r.first + i * r.step, r.target + i * r.step)

end CaseRun

/-- A mapping made of runs; a code point outside every run stays as it is. -/
abbrev CaseMap := List CaseRun

namespace CaseMap

/-- The image of a code point. -/
def apply (m : CaseMap) (n : Nat) : Nat := (m.findSome? (·.image? n)).getD n

/-- The code points of the runs that are sent to `n`. -/
def preimages (m : CaseMap) (n : Nat) : List Nat := m.filterMap (·.source? n)

end CaseMap

end SnippetLint.Unicode
