import Mathlib.Order.Basic
import Mathlib.Tactic.Lemma
import SnippetLint.Score

/-!
# What scores are

The cut-off at the largest word and the narrowing to a byte never show: a score is the difference
that they stand in the way of (`Scoring.toNat_score`). Scores that `Scoring.validate` accepts do not
rise with the number of defects (`Scoring.score_antitone`) and are at most 100 (`Scoring.score_le`);
nothing else is accepted, since already no defect and a single one, at no penalty, show a baseline
above the score of a clean snippet. With a penalty, accepted scores fall until they are zero
(`Scoring.score_succ_lt`).
-/

namespace SnippetLint.Scoring

/-- A score, without bounds on the numbers that it is computed from. -/
lemma toNat_score (s : Scoring) (n : Nat) :
    (s.score n).toNat =
      if n = 0 then s.cleanScore.toNat else s.baseline.toNat - s.penalty.toNat * n := by
  unfold score
  split
  · rfl
  -- The baseline is a byte, so all points beyond that come to the same.
  · have hbaseline : s.baseline.toNat < 256 := s.baseline.toNat_lt
    have hlimit : 256 ≤ countLimit := by decide
    have hcut : s.baseline.toNat - min (s.penalty.toNat * n) countLimit =
        s.baseline.toNat - s.penalty.toNat * n := by
      omega
    show (s.baseline.toNat - min (s.penalty.toNat * n) countLimit).toUInt8.toNat = _
    rw [hcut, Nat.toUInt8_eq, UInt8.toNat_ofNat']
    omega

lemma validate_eq_ok_iff (s : Scoring) :
    s.validate = .ok () ↔ s.cleanScore ≤ 100 ∧ s.baseline ≤ s.cleanScore := by
  unfold validate
  split
  · next hclean => simp [UInt8.not_le.mpr hclean]
  · next hclean =>
    split
    · next hbaseline => simp [UInt8.not_le.mpr hbaseline]
    · next hbaseline => simp [UInt8.not_lt.mp hclean, UInt8.not_lt.mp hbaseline]

/-- More defects never make a score better. -/
lemma score_antitone {s : Scoring} (h : s.validate = .ok ()) {m n : Nat} (hmn : m ≤ n) :
    s.score n ≤ s.score m := by
  obtain ⟨-, hbaseline⟩ := s.validate_eq_ok_iff.mp h
  rw [UInt8.le_iff_toNat_le] at hbaseline ⊢
  rw [toNat_score, toNat_score]
  by_cases hm : m = 0
  · rw [if_pos hm]
    split <;> omega
  · have hn : n ≠ 0 := by omega
    have hpoints : s.penalty.toNat * m ≤ s.penalty.toNat * n := Nat.mul_le_mul_left _ hmn
    rw [if_neg hm, if_neg hn]
    omega

/-- A score is never above 100. -/
lemma score_le {s : Scoring} (h : s.validate = .ok ()) (n : Nat) : s.score n ≤ 100 := by
  have hclean : s.score 0 ≤ 100 := (s.validate_eq_ok_iff.mp h).1
  exact UInt8.le_trans (score_antitone h (Nat.zero_le n)) hclean

/-- Where every defect costs something, one more of them costs something as long as there is
something left. -/
lemma score_succ_lt {s : Scoring} (h : s.validate = .ok ()) (hpenalty : 1 ≤ s.penalty) {n : Nat}
    (hn : 0 < s.score n) : s.score (n + 1) < s.score n := by
  obtain ⟨-, hbaseline⟩ := s.validate_eq_ok_iff.mp h
  rw [UInt8.le_iff_toNat_le] at hbaseline hpenalty
  rw [UInt8.lt_iff_toNat_lt] at hn ⊢
  have hone : (1 : UInt8).toNat = 1 := rfl
  have hzero : (0 : UInt8).toNat = 0 := rfl
  rw [toNat_score, if_neg (Nat.succ_ne_zero n), Nat.mul_succ]
  rw [toNat_score] at hn ⊢
  split at hn
  -- The first defect is counted from the baseline, not from the score of a clean snippet.
  · next hclean =>
    rw [if_pos hclean]
    omega
  · next hclean =>
    rw [if_neg hclean]
    omega

/-- The same parameters but for the penalty. -/
def withPenalty (s : Scoring) (penalty : UInt8) : Scoring := { s with penalty := penalty }

/-- Whether parameters are accepted does not depend on the penalty. -/
@[simp] lemma validate_withPenalty (s : Scoring) (penalty : UInt8) :
    (s.withPenalty penalty).validate = s.validate := rfl

/-- Parameters with which no score rises and none is above 100, whatever the penalty, are
accepted. -/
lemma validate_of_scores {s : Scoring}
    (h : ∀ (penalty : UInt8) (m n : Nat), m ≤ n → n < UInt64.size →
      (s.withPenalty penalty).score n ≤ (s.withPenalty penalty).score m ∧
        (s.withPenalty penalty).score m ≤ 100) : s.validate = .ok () := by
  obtain ⟨hbaseline, hclean⟩ := h 0 0 1 (Nat.zero_le 1) (by decide)
  refine s.validate_eq_ok_iff.mpr ⟨hclean, ?_⟩
  rw [UInt8.le_iff_toNat_le, toNat_score, toNat_score] at hbaseline
  rw [UInt8.le_iff_toNat_le]
  simpa [withPenalty] using hbaseline

/-- A score is what is left of the baseline, counted in whole numbers without any bound, or the
score of a clean snippet. Parameters are accepted if and only if, with every penalty and for all
numbers of defects that a word holds, no score is above 100 and more defects do not score higher.
With accepted parameters and a penalty, one more defect lowers every score but zero. -/
theorem score_exact :
    (∀ (s : Scoring) (n : Nat), ((s.score n).toNat : Int) =
      if n = 0 then (s.cleanScore.toNat : Int)
      else max 0 ((s.baseline.toNat : Int) - s.penalty.toNat * n)) ∧
    (∀ s : Scoring, s.validate = .ok () ↔
      ∀ (penalty : UInt8) (m n : Nat), m ≤ n → n < UInt64.size →
        (s.withPenalty penalty).score n ≤ (s.withPenalty penalty).score m ∧
          (s.withPenalty penalty).score m ≤ 100) ∧
    ∀ s : Scoring, s.validate = .ok () → 1 ≤ s.penalty → ∀ n, 0 < s.score n →
      s.score (n + 1) < s.score n := by
  refine ⟨fun s n => ?_, fun s => ⟨fun h penalty m n hmn _ => ?_, validate_of_scores⟩,
    fun s h hpenalty n hn => score_succ_lt h hpenalty hn⟩
  · rw [toNat_score]
    split
    · rfl
    · omega
  · rw [← s.validate_withPenalty penalty] at h
    exact ⟨score_antitone h hmn, score_le h m⟩

/-- After five defects fewer points are left than a defect costs, and the largest number of defects
that there can be does not score higher. -/
theorem score_exact_last :
    let s : Scoring := ⟨80, 80, 15⟩
    s.validate = .ok () ∧ 1 ≤ s.penalty ∧ 0 < s.score 5 ∧ s.score 6 < s.score 5 ∧
      5 ≤ UInt64.size - 1 ∧
      (s.withPenalty 255).score (UInt64.size - 1) ≤ (s.withPenalty 255).score 5 := by
  intro s
  obtain ⟨-, haccepted, hfall⟩ := score_exact
  have hvalid : s.validate = .ok () := by decide
  have hleft : 0 < s.score 5 := by decide
  have hlimit : 5 ≤ UInt64.size - 1 := by decide
  refine ⟨hvalid, by decide, hleft, hfall s hvalid (by decide) 5 hleft, hlimit, ?_⟩
  exact ((haccepted s).mp hvalid 255 5 (UInt64.size - 1) hlimit (by decide)).1

end SnippetLint.Scoring
