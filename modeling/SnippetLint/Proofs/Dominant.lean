import Mathlib.Data.List.Basic
import Mathlib.Data.List.Induction
import Mathlib.Tactic.Lemma
import SnippetLint.Analysis

/-!
# What a summary is about

The category that a summary names is the one that most defects are of and, of several such, the one
that occurs first. What is counted along the defects is described by `Tally`, which one more defect
preserves (`Tally.step`): each category that has occurred is listed once, with the number of its
occurrences, in the order of first occurrences. The first entry with the largest number is then the
category that `Prevails`, and there is no other.

A result says the same in all its parts: whether there are defects, how many, what score they come
to, and which category the summary names (`analyze_consistent`).
-/

namespace SnippetLint

/-- A category occurs, none occurs more often, and whichever occurs as often occurs later. -/
structure Prevails (categories : List Category) (c : Category) : Prop where
  occurs : c ∈ categories
  most : ∀ d, categories.count d ≤ categories.count c
  first : ∀ d, d ≠ c → categories.count d = categories.count c →
    categories.idxOf c < categories.idxOf d

/-- Only one category prevails. -/
lemma Prevails.unique {categories : List Category} {c d : Category} (hc : Prevails categories c)
    (hd : Prevails categories d) : c = d := by
  by_contra h
  have hsame : categories.count c = categories.count d := Nat.le_antisymm (hd.most c) (hc.most d)
  have hbefore := hc.first d (Ne.symm h) hsame.symm
  have hafter := hd.first c h hsame
  omega

/-! ## Counting -/

/-- Counts one more occurrence of a category. -/
def countOne (counts : List (Category × Nat)) (c : Category) : List (Category × Nat) :=
  if counts.any (·.1 == c) then counts.map fun (k, n) => if k == c then (k, n + 1) else (k, n)
  else counts ++ [(c, 1)]

lemma categoryCounts_eq_foldl (defects : List Defect) :
    categoryCounts defects = (defects.map Defect.category).foldl countOne [] := by
  rw [List.foldl_map]
  rfl

/-- What has been counted after some categories: how often each of them occurs, in the order in
which they occur first. -/
structure Tally (seen : List Category) (counts : List (Category × Nat)) : Prop where
  exact : ∀ c n, (c, n) ∈ counts ↔ c ∈ seen ∧ n = seen.count c
  ordered : counts.Pairwise fun a b => seen.idxOf a.1 < seen.idxOf b.1

namespace Tally

variable {seen : List Category} {counts : List (Category × Nat)}

lemma mem_seen (h : Tally seen counts) {entry : Category × Nat} (hentry : entry ∈ counts) :
    entry.1 ∈ seen := ((h.exact entry.1 entry.2).mp hentry).1

lemma any_eq_true_iff (h : Tally seen counts) (c : Category) :
    counts.any (·.1 == c) = true ↔ c ∈ seen := by
  rw [List.any_eq_true]
  constructor
  · rintro ⟨entry, hentry, hc⟩
    rw [← eq_of_beq hc]
    exact h.mem_seen hentry
  · intro hc
    exact ⟨(c, seen.count c), (h.exact _ _).mpr ⟨hc, rfl⟩, beq_self_eq_true c⟩

/-- The order of first occurrences stays when something occurs after them. -/
lemma ordered_concat (h : Tally seen counts) (c : Category) :
    counts.Pairwise fun a b => (seen ++ [c]).idxOf a.1 < (seen ++ [c]).idxOf b.1 := by
  refine h.ordered.imp_of_mem fun {a b} ha hb hab => ?_
  rwa [List.idxOf_append_of_mem (h.mem_seen ha), List.idxOf_append_of_mem (h.mem_seen hb)]

/-- A category that has occurred before is counted where it stands. -/
lemma step_again (h : Tally seen counts) {c : Category} (hc : c ∈ seen) :
    Tally (seen ++ [c]) (counts.map fun (k, n) => if k == c then (k, n + 1) else (k, n)) := by
  constructor
  · intro k n
    have hseen : k ∈ seen ++ [c] ↔ k ∈ seen := by
      rw [List.mem_append, List.mem_singleton]
      exact ⟨fun hk => hk.elim id fun hk => hk ▸ hc, .inl⟩
    rw [hseen, List.count_append, List.mem_map]
    constructor
    · rintro ⟨⟨k', n'⟩, hmem, hentry⟩
      obtain ⟨hk', rfl⟩ := (h.exact k' n').mp hmem
      by_cases hkc : k' = c
      · subst hkc
        simp only [beq_self_eq_true, if_true, Prod.mk.injEq] at hentry
        obtain ⟨rfl, rfl⟩ := hentry
        exact ⟨hk', by simp⟩
      · simp only [beq_eq_false_iff_ne.mpr hkc, Bool.false_eq_true, if_false,
          Prod.mk.injEq] at hentry
        obtain ⟨rfl, rfl⟩ := hentry
        exact ⟨hk', by simp [Ne.symm hkc]⟩
    · rintro ⟨hk, rfl⟩
      refine ⟨(k, seen.count k), (h.exact _ _).mpr ⟨hk, rfl⟩, ?_⟩
      by_cases hkc : k = c
      · simp [hkc]
      · simp [hkc, Ne.symm hkc]
  -- The entries keep their categories, so they stay in their order.
  · rw [List.pairwise_map]
    refine (h.ordered_concat c).imp fun {a b} hab => ?_
    have hkey : ∀ entry : Category × Nat,
        (if entry.1 == c then (entry.1, entry.2 + 1) else (entry.1, entry.2)).1 = entry.1 := by
      intro entry
      split <;> rfl
    simpa only [hkey] using hab

/-- A category that occurs for the first time is counted behind all others. -/
lemma step_new (h : Tally seen counts) {c : Category} (hc : c ∉ seen) :
    Tally (seen ++ [c]) (counts ++ [(c, 1)]) := by
  constructor
  · intro k n
    rw [List.mem_append, List.mem_append, List.mem_singleton, List.mem_singleton, h.exact,
      List.count_append, Prod.mk.injEq]
    by_cases hkc : k = c
    · subst hkc
      simp [hc, List.count_eq_zero_of_not_mem hc]
    · simp [hkc, Ne.symm hkc]
  · rw [List.pairwise_append]
    refine ⟨h.ordered_concat c, List.pairwise_singleton _ _, fun entry hentry last hlast => ?_⟩
    obtain rfl := List.mem_singleton.mp hlast
    have hbefore : seen.idxOf entry.1 < seen.length :=
      List.idxOf_lt_length_of_mem (h.mem_seen hentry)
    rw [List.idxOf_append_of_mem (h.mem_seen hentry), List.idxOf_append_of_notMem hc]
    omega

lemma step (h : Tally seen counts) (c : Category) : Tally (seen ++ [c]) (countOne counts c) := by
  rw [countOne]
  split
  · next hany => exact h.step_again ((h.any_eq_true_iff c).mp hany)
  · next hany => exact h.step_new fun hc => hany ((h.any_eq_true_iff c).mpr hc)

/-- Whatever the categories are, they are counted. -/
theorem run (categories : List Category) : Tally categories (categories.foldl countOne []) := by
  induction categories using List.reverseRecOn with
  | nil => exact ⟨by simp, List.Pairwise.nil⟩
  | append_singleton categories c ih =>
    rw [List.foldl_concat]
    exact ih.step c

end Tally

/-! ## The category that prevails -/

/-- What is found first among the largest counts prevails. -/
lemma Tally.prevails {seen : List Category} {counts : List (Category × Nat)} (h : Tally seen counts)
    {most : Nat} (hmost : ∀ entry ∈ counts, entry.2 ≤ most) {c : Category} {n : Nat}
    (hfind : counts.find? (·.2 == most) = some (c, n)) : Prevails seen c := by
  obtain ⟨hn, before, after, rfl, hbefore⟩ := List.find?_eq_some_iff_append.mp hfind
  obtain rfl : n = most := eq_of_beq hn
  obtain ⟨hc, rfl⟩ := (h.exact c n).mp (by simp)
  refine ⟨hc, fun d => ?_, fun d hdc hd => ?_⟩
  · by_cases hd : d ∈ seen
    · exact hmost (d, seen.count d) ((h.exact _ _).mpr ⟨hd, rfl⟩)
    · simp [List.count_eq_zero_of_not_mem hd]
  -- Another category with as many occurrences is listed, but not before the one that is found.
  · have hseen : d ∈ seen := by
      rw [← List.count_pos_iff, hd]
      exact List.count_pos_iff.mpr hc
    have hmem := (h.exact d (seen.count d)).mpr ⟨hseen, rfl⟩
    rw [List.mem_append, List.mem_cons] at hmem
    obtain hmem | heq | hmem := hmem
    · simpa [hd] using hbefore _ hmem
    · exact absurd (congrArg Prod.fst heq) hdc
    · obtain ⟨-, hordered, -⟩ := List.pairwise_append.mp h.ordered
      exact (List.pairwise_cons.mp hordered).1 _ hmem

/-- The largest of some numbers is one of them. -/
lemma foldl_max_mem {numbers : List Nat} (h : numbers ≠ []) :
    numbers.foldl max 0 ∈ numbers ∧ ∀ n ∈ numbers, n ≤ numbers.foldl max 0 := by
  have hmax : numbers.foldl max 0 = numbers.max h := by
    rw [List.foldl_max_eq_max h, Nat.zero_max]
  rw [hmax]
  exact ⟨List.max_mem h, fun n hn => List.le_max_of_mem hn⟩

lemma dominantCategory_spec (defects : List Defect) :
    match dominantCategory defects with
    | none => defects = []
    | some c => Prevails (defects.map Defect.category) c := by
  have htally := Tally.run (defects.map Defect.category)
  rw [← categoryCounts_eq_foldl] at htally
  rw [dominantCategory]
  cases hfind : (categoryCounts defects).find?
      (·.2 == ((categoryCounts defects).map (·.2)).foldl max 0) with
  | some entry =>
    have hne : (categoryCounts defects).map (·.2) ≠ [] := by
      simpa using List.ne_nil_of_mem (List.mem_of_find?_eq_some hfind)
    refine htally.prevails (fun entry hentry => ?_) hfind
    exact (foldl_max_mem hne).2 _ (List.mem_map_of_mem hentry)
  | none =>
    -- The largest number is that of some entry, and the search would have found it.
    by_contra hdefects
    obtain ⟨d, rest, rfl⟩ := List.exists_cons_of_ne_nil hdefects
    have hmem := (htally.exact d.category _).mpr ⟨by simp, rfl⟩
    have hne : (categoryCounts (d :: rest)).map (·.2) ≠ [] := by
      simpa using List.ne_nil_of_mem hmem
    obtain ⟨entry, hentry, hmost⟩ := List.mem_map.mp (foldl_max_mem hne).1
    have hnot := List.find?_eq_none.mp hfind entry hentry
    exact hnot (beq_iff_eq.mpr hmost)

/-- There is no dominant category only if there are no defects. -/
lemma dominantCategory_eq_none_iff (defects : List Defect) :
    dominantCategory defects = none ↔ defects = [] := by
  constructor
  · intro h
    have hspec := dominantCategory_spec defects
    rwa [h] at hspec
  · rintro rfl
    rfl

/-- The dominant category is the one that prevails. -/
lemma dominantCategory_eq_some_iff (defects : List Defect) (c : Category) :
    dominantCategory defects = some c ↔ Prevails (defects.map Defect.category) c := by
  have hspec := dominantCategory_spec defects
  constructor
  · intro h
    rwa [h] at hspec
  · intro hc
    cases h : dominantCategory defects with
    | none =>
      obtain rfl := (dominantCategory_eq_none_iff defects).mp h
      cases hc.occurs
    | some d =>
      rw [h] at hspec
      rw [hspec.unique hc]

/-! ## The result of an analysis -/

lemma Text.decimal_eq_toDigits (n : Nat) : Text.decimal n = Nat.toDigits 10 n := by
  have hdigit : ∀ d < 10, decimalDigit d = d.digitChar := by decide
  fun_induction Text.decimal n with
  | case1 n hn => rw [Nat.toDigits_of_lt_base hn, hdigit n hn]
  | case2 n hn ih =>
    rw [Nat.toDigits_of_base_le (by decide) (Nat.not_lt.mp hn), ih,
      hdigit _ (Nat.mod_lt n (by decide))]

/-- Numbers are written as usual. -/
lemma decimal_eq_toString (n : Nat) : decimal n = toString n := by
  rw [decimal, Text.decimal_eq_toDigits]
  rfl

/-- The dominant category of some defects is the one that occurs most often and, of those that do,
occurs first; without defects there is none. Every result of an analysis has errors exactly if it
lists some, has the score of their number, and its summary names that number and the category that
prevails among them, or praises the code if there are none. -/
theorem analyze_consistent :
    (∀ defects : List Defect, (dominantCategory defects = none ↔ defects = []) ∧
      ∀ c, dominantCategory defects = some c ↔ Prevails (defects.map Defect.category) c) ∧
    ∀ (a : Analyzer) (code name : String), let result := a.analyze code name
      (result.hasErrors = true ↔ result.errors ≠ []) ∧
      result.codeQuality = a.scoring.score result.errors.length ∧
      ((result.errors = [] ∧ result.dominant = none ∧
          result.summary =
            "Your " ++ Analyzer.displayName name ++ " code looks good! No major issues detected.") ∨
        ∃ c, Prevails (result.errors.map Defect.category) c ∧ result.dominant = some c ∧
          result.summary =
            "Found " ++ toString result.errors.length ++ " issue(s) in your " ++
              Analyzer.displayName name ++ " code. The main problem is related to " ++
              c.describe ++ ".") := by
  refine ⟨fun defects => ⟨dominantCategory_eq_none_iff defects,
    dominantCategory_eq_some_iff defects⟩, fun a code name => ⟨?_, rfl, ?_⟩⟩
  · simp [Analyzer.analyze]
  · change (a.defects code name = [] ∧ dominantCategory (a.defects code name) = none ∧
      summarize (a.defects code name) _ = _) ∨ ∃ c, Prevails _ c ∧
        dominantCategory (a.defects code name) = some c ∧ summarize (a.defects code name) _ = _
    cases h : dominantCategory (a.defects code name) with
    | none =>
      refine .inl ⟨(dominantCategory_eq_none_iff _).mp h, rfl, ?_⟩
      rw [summarize, h]
    | some c =>
      refine .inr ⟨c, (dominantCategory_eq_some_iff _ c).mp h, rfl, ?_⟩
      rw [summarize, h, decimal_eq_toString]
      rfl

end SnippetLint
