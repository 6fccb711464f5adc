import Mathlib.Data.List.TakeWhile
import Mathlib.Tactic.Lemma
import SnippetLint.Text.Basic
import SnippetLint.Unicode.Word

/-!
# White space

What is blank in a text: the blanks that stand around it (`exists_blanks_trim`, `trim_of_blanks`),
and texts that have nothing else, of which nothing is left without the blanks at their ends
(`trim_eq_nil_iff`). There are so few blanks that a property of all of them can be decided by looking
at each (`blankCharacters`); that none of them is a word character is shown in this way.
-/

namespace SnippetLint

namespace Text

open Unicode

/-! ## The blanks one by one -/

/-- The white space characters. -/
def blankCharacters : List Char :=
  blankTable.flatMap fun r => (List.range' r.1 (r.2 + 1 - r.1)).map Char.ofNat

lemma exists_range_of_contains {t : RangeTable} {n : Nat} (h : t.contains n = true) :
    ∃ r ∈ t, r.1 ≤ n ∧ n ≤ r.2 := by
  induction t with
  | nil => simp [RangeTable.contains] at h
  | cons r t ih =>
    simp only [RangeTable.contains] at h
    -- A table is sorted, so the search ends at a range that begins too late.
    split at h
    · cases h
    · rcases (Bool.or_eq_true _ _).mp h with hlast | hrest
      · exact ⟨r, List.mem_cons_self, by omega, by simpa using hlast⟩
      · obtain ⟨r', hr', hrange⟩ := ih hrest
        exact ⟨r', List.mem_cons_of_mem r hr', hrange⟩

lemma mem_blankCharacters {c : Char} (h : isBlank c = true) : c ∈ blankCharacters := by
  obtain ⟨r, hr, hfirst, hlast⟩ := exists_range_of_contains h
  refine List.mem_flatMap.mpr ⟨r, hr, List.mem_map.mpr ⟨c.toNat, ?_, Char.ofNat_toNat c⟩⟩
  rw [List.mem_range'_1]
  omega

/-- No blank is a word character. -/
lemma isWord_eq_false_of_isBlank {c : Char} (h : isBlank c = true) : isWord c = false := by
  have hall : (blankCharacters.all fun c => !isWord c) = true := by decide +kernel
  have hword := List.all_eq_true.mp hall c (mem_blankCharacters h)
  rwa [Bool.not_eq_true'] at hword

lemma isBlank_eq_false_of_isWord {c : Char} (h : isWord c = true) : isBlank c = false := by
  by_contra hblank
  rw [isWord_eq_false_of_isBlank (by simpa using hblank)] at h
  cases h

/-! ## Blanks around a text -/

/-- What is trimmed off are blanks. -/
lemma exists_blanks_trim (s : List Char) : ∃ front back, s = front ++ trim s ++ back ∧
    (∀ c ∈ front, isBlank c = true) ∧ ∀ c ∈ back, isBlank c = true := by
  have hblank : ∀ u : List Char, ∀ c ∈ u.takeWhile isBlank, isBlank c = true :=
    fun u => List.all_eq_true.mp List.all_takeWhile
  let rest := s.dropWhile isBlank
  have hrest : rest = trim s ++ (rest.reverse.takeWhile isBlank).reverse := by
    rw [trim, ← List.reverse_append, List.takeWhile_append_dropWhile, List.reverse_reverse]
  refine ⟨s.takeWhile isBlank, (rest.reverse.takeWhile isBlank).reverse, ?_, hblank s, ?_⟩
  · rw [List.append_assoc, ← hrest, List.takeWhile_append_dropWhile]
  · intro c hc
    exact hblank _ c (List.mem_reverse.mp hc)

/-- Blanks around a text without blanks are trimmed off. -/
lemma trim_of_blanks {front word back : List Char} (hfront : ∀ c ∈ front, isBlank c = true)
    (hback : ∀ c ∈ back, isBlank c = true) (hword : ∀ c ∈ word, isBlank c = false)
    (hne : word ≠ []) : trim (front ++ word ++ back) = word := by
  have hdrop : ∀ u v : List Char, (∀ c ∈ u, isBlank c = false) → u ≠ [] →
      (u ++ v).dropWhile isBlank = u ++ v := by
    intro u v hu hne
    obtain ⟨c, u, rfl⟩ := List.exists_cons_of_ne_nil hne
    exact List.dropWhile_cons_of_neg (by simp [hu c List.mem_cons_self])
  have hreverse : ∀ c ∈ word.reverse, isBlank c = false :=
    fun c hc => hword c (List.mem_reverse.mp hc)
  have hback' : ∀ c ∈ back.reverse, isBlank c = true := fun c hc => hback c (List.mem_reverse.mp hc)
  have hword' := hdrop word.reverse [] hreverse (List.reverse_ne_nil_iff.mpr hne)
  rw [List.append_nil] at hword'
  rw [trim, List.append_assoc, List.dropWhile_append_of_pos hfront, hdrop word back hword hne,
    List.reverse_append, List.dropWhile_append_of_pos hback', hword', List.reverse_reverse]

/-- Nothing is left of a text that has nothing but blanks, and of no other. -/
lemma trim_eq_nil_iff (s : List Char) : trim s = [] ↔ ∀ c ∈ s, isBlank c = true := by
  constructor
  · intro h c hc
    obtain ⟨front, back, hs, hfront, hback⟩ := exists_blanks_trim s
    rw [hs, h, List.append_nil, List.mem_append] at hc
    exact hc.elim (hfront c) (hback c)
  · intro h
    rw [trim, List.dropWhile_eq_nil_iff.mpr h]
    rfl

end Text

/-- A text is blank if all its characters are. -/
lemma isBlankText_iff (s : String) :
    isBlankText s = true ↔ ∀ c ∈ s.toList, Unicode.isBlank c = true := by
  rw [isBlankText, Text.isBlankText, List.all_eq_true]

/-- A text has nothing but blanks if nothing is left of it without the blanks at its ends. -/
lemma isBlankText_iff_trimmed (s : String) : isBlankText s = true ↔ trimmed s = "" := by
  rw [isBlankText_iff, ← Text.trim_eq_nil_iff, trimmed, ← String.toList_inj, String.toList_ofList]
  rfl

end SnippetLint
