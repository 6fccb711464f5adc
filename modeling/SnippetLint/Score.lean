/-!
# Quality scores

The quality of a snippet is a score that depends on the number of its defects only. Scores are
bytes and counts are machine words of 64 bits; the score of a count is never affected by that, as
the points taken off are cut off at the largest word, which is far beyond the largest score.
-/

namespace SnippetLint

/-- How scores are counted. -/
structure Scoring where
  /-- The score of a snippet without defects. -/
  cleanScore : UInt8 := 100
  /-- The score that points are taken off from once there is a defect. -/
  baseline : UInt8 := 90
  /-- The points taken off for each defect. -/
  penalty : UInt8 := 15
  deriving Repr, DecidableEq

/-- The reasons for which scoring parameters are refused. -/
inductive ScoringError
  | cleanScoreTooHigh (cleanScore : UInt8)
  | baselineTooHigh (baseline cleanScore : UInt8)
  deriving Repr, DecidableEq

namespace Scoring

/-- The largest count there is. -/
def countLimit : Nat := UInt64.size - 1

/-- Whether the scores stay within 0 and 100 and never rise with the number of defects. -/
def validate (s : Scoring) : Except ScoringError Unit :=
  if 100 < s.cleanScore then .error (.cleanScoreTooHigh s.cleanScore)
  else if s.cleanScore < s.baseline then .error (.baselineTooHigh s.baseline s.cleanScore)
  else .ok ()

/-- The score of a snippet with a number of defects. -/
def score (s : Scoring) (defects : Nat) : UInt8 :=
  if defects = 0 then s.cleanScore
  else
    let points := min (s.penalty.toNat * defects) countLimit
    (s.baseline.toNat - points).toUInt8

end Scoring

/-- How a score is shown. -/
inductive QualityBand
  | good
  | fair
  | poor
  deriving Repr, DecidableEq

namespace QualityBand

/-- Every band, best first. -/
def all : List QualityBand := [good, fair, poor]

/-- The band of a score. -/
def ofScore (score : UInt8) : QualityBand :=
  if 80 ≤ score then good else if 60 ≤ score then fair else poor

/-- The name of a band. -/
def name : QualityBand → String
  | good => "good"
  | fair => "fair"
  | poor => "poor"

end QualityBand

end SnippetLint
