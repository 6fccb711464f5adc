import Mathlib.Tactic.Lemma
import SnippetLint.Text.Basic
import SnippetLint.Unicode.Lowercase

/-!
# Words of ASCII in the lower case form of a text

The lower case form of a text may be longer than the text, and a character outside ASCII may become
one of ASCII. This happens to two characters only: the Kelvin sign becomes a `k`, and the dotted `İ`
an `i` with a combining dot after it (`Unicode.lowercaseAt_of_not_ascii`). So there are words of
which the lower case form tells no more than whether the text itself has them, if the case of ASCII
letters does not count (`Text.Plain`). For such a word

* `Unicode.lowercaseFrom_eq_append_iff` finds it at the front of the lower case form,
* `Unicode.lowercase_eq_iff` says when it is the whole of it, and
* `Unicode.contains_lowercase_iff` says when it occurs anywhere.
-/

namespace SnippetLint

/-! ## The case of ASCII letters -/

/-- A character of ASCII. -/
def IsAscii (c : Char) : Prop := c.toNat < 128

instance : DecidablePred IsAscii := fun c => inferInstanceAs (Decidable (c.toNat < 128))

/-- What holds of the first 128 characters holds of the characters of ASCII. -/
lemma IsAscii.of_forall {P : Char → Prop} (h : ∀ n ∈ List.range 128, P (Char.ofNat n)) {c : Char}
    (hc : IsAscii c) : P c := by
  have hcode := h c.toNat (List.mem_range.mpr hc)
  rwa [Char.ofNat_toNat] at hcode

/-- Only letters of ASCII are turned into lower case one by one. -/
lemma toLower_of_not_ascii {c : Char} (h : ¬ IsAscii c) : c.toLower = c := by
  have hbeyond : ¬ c.val ≤ 'Z'.val := by
    intro hle
    have hnat : c.toNat ≤ 90 := hle
    exact h (Nat.lt_of_le_of_lt hnat (by decide))
  exact dif_neg fun hcapital => hbeyond hcapital.2

/-- A letter in lower case is one of ASCII if the letter itself is. -/
lemma isAscii_toLower_iff (c : Char) : IsAscii c.toLower ↔ IsAscii c := by
  by_cases h : IsAscii c
  · have hlower : IsAscii c.toLower :=
      h.of_forall (P := fun c => IsAscii c.toLower) (by decide +kernel)
    exact iff_of_true hlower h
  · rw [toLower_of_not_ascii h]

namespace Text

/-- Two texts are the same but for the case of ASCII letters. -/
def SameLetters (s t : List Char) : Prop := s.map Char.toLower = t.map Char.toLower

instance (s t : List Char) : Decidable (SameLetters s t) :=
  inferInstanceAs (Decidable (s.map Char.toLower = t.map Char.toLower))

/-- A word of lower case ASCII that is told from the lower case form of a text. It has no `k`, which
the Kelvin sign becomes, and no `i` at its end, where that of a dotted `İ` could stand. -/
def Plain (word : List Char) : Prop :=
  (∀ c ∈ word, IsAscii c ∧ c.toLower = c ∧ c ≠ 'k') ∧ word.getLast? ≠ some 'i'

-- The letters of the word are gone through; the instance found otherwise can be the one that goes
-- through all characters.
instance : DecidablePred Plain := fun word =>
  haveI : Decidable (∀ c ∈ word, IsAscii c ∧ c.toLower = c ∧ c ≠ 'k') :=
    List.decidableBAll _ word
  inferInstanceAs (Decidable (_ ∧ word.getLast? ≠ some 'i'))

namespace Plain

variable {c : Char} {word w : List Char}

lemma tail (h : Plain (c :: word)) : Plain word := by
  refine ⟨fun d hd => h.1 d (List.mem_cons_of_mem c hd), ?_⟩
  cases word with
  | nil => simp
  | cons d word => simpa using h.2

/-- A plain word is in lower case. -/
lemma map_toLower (h : Plain word) : word.map Char.toLower = word := by
  have hsame : ∀ c ∈ word, c.toLower = id c := fun c hc => (h.1 c hc).2.1
  rw [List.map_congr_left hsame, List.map_id]

lemma sameLetters_iff (h : Plain word) : SameLetters w word ↔ w.map Char.toLower = word := by
  rw [SameLetters, h.map_toLower]

/-- Nothing outside ASCII is the same as a plain word. -/
lemma isAscii_of_sameLetters (h : Plain word) (hw : SameLetters w word) : ∀ c ∈ w, IsAscii c := by
  intro c hc
  rw [h.sameLetters_iff] at hw
  have hmem : c.toLower ∈ word := hw ▸ List.mem_map_of_mem hc
  exact (isAscii_toLower_iff c).mp (h.1 _ hmem).1

end Plain

end Text

namespace Unicode

open SnippetLint.Text

/-! ## One character -/

/-- The lower case of a code point, if it is not the code point itself, is the end of a run. -/
lemma CaseMap.apply_cases (m : CaseMap) (n : Nat) :
    m.apply n = n ∨ ∃ r ∈ m, r.image? n = some (m.apply n) := by
  rw [CaseMap.apply]
  cases h : m.findSome? (·.image? n) with
  | none => exact .inl rfl
  | some target =>
    obtain ⟨r, hr, himage⟩ := List.exists_of_findSome?_eq_some h
    exact .inr ⟨r, hr, himage⟩

/-- All targets of a run are characters outside ASCII. -/
def CaseRun.StaysOutside (r : CaseRun) : Prop :=
  let last := r.target + (r.last - r.first)
  128 ≤ r.target ∧ (last < 0xD800 ∨ 0xDFFF < r.target ∧ last < 0x110000)

instance : DecidablePred CaseRun.StaysOutside :=
  fun _ => inferInstanceAs (Decidable (_ ∧ (_ ∨ _ ∧ _)))

lemma CaseRun.StaysOutside.image {r : CaseRun} (h : r.StaysOutside) {n target : Nat}
    (himage : r.image? n = some target) : 128 ≤ target ∧ target.isValidChar := by
  obtain ⟨hlow, hlast⟩ := h
  rw [CaseRun.image?] at himage
  split at himage
  · next hn =>
    obtain rfl := Option.some.inj himage
    rw [Nat.isValidChar]
    omega
  · cases himage

/-- The table of lower case forms has one run for ASCII and one for the Kelvin sign; no other run
leads into ASCII. -/
lemma lowercaseMap_runs : ∀ r ∈ lowercaseMap,
    r.StaysOutside ∨ (r.first = 0x41 ∧ r.last = 0x5A) ∨ (r.first = 0x212A ∧ r.last = 0x212A) := by
  decide +kernel

/-- The full case mapping is the usual one on ASCII. -/
lemma lowercaseChar_of_ascii {c : Char} (h : IsAscii c) : lowercaseChar c = [c.toLower] :=
  h.of_forall (P := fun c => lowercaseChar c = [c.toLower]) (by decide +kernel)

/-- A character of ASCII becomes what it becomes in ASCII, wherever it stands. -/
lemma lowercaseAt_of_ascii {c : Char} (h : IsAscii c) (before after : List Char) :
    lowercaseAt before c after = [c.toLower] := by
  have hsigma : c ≠ 'Σ' := by
    rintro rfl
    exact absurd h (by decide)
  rw [lowercaseAt, if_neg hsigma, lowercaseChar_of_ascii h]

/-- A character outside ASCII becomes one outside ASCII, with two exceptions. -/
lemma lowercaseAt_of_not_ascii {c : Char} (h : ¬ IsAscii c) (before after : List Char) :
    lowercaseAt before c after = ['k'] ∨ lowercaseAt before c after = ['i', '\u0307'] ∨
      ∃ d, ¬ IsAscii d ∧ lowercaseAt before c after = [d] := by
  have hcode : 128 ≤ c.toNat := Nat.le_of_not_lt h
  rw [lowercaseAt]
  split
  · right; right
    split
    · exact ⟨'ς', by decide, rfl⟩
    · exact ⟨'σ', by decide, rfl⟩
  rw [lowercaseChar]
  split
  · exact .inr (.inl rfl)
  -- All others are looked up in the table.
  have houtside : ∀ n, 128 ≤ n ∧ n.isValidChar → ¬ IsAscii (Char.ofNat n) := by
    intro n hn
    have hcode' : (Char.ofNat n).toNat = n := by
      rw [Char.ofNat, dif_pos hn.2]
      rfl
    rw [IsAscii, hcode']
    omega
  obtain hsame | ⟨r, hr, himage⟩ := lowercaseMap.apply_cases c.toNat
  · rw [hsame, Char.ofNat_toNat]
    exact .inr (.inr ⟨c, h, rfl⟩)
  obtain hstays | ⟨-, hlast⟩ | ⟨hfirst, hlast⟩ := lowercaseMap_runs r hr
  · exact .inr (.inr ⟨_, houtside _ (hstays.image himage), rfl⟩)
  · rw [CaseRun.image?, if_neg (by omega)] at himage
    cases himage
  · have hkelvin : c.toNat = 0x212A := by
      rw [CaseRun.image?] at himage
      split at himage
      · omega
      · cases himage
    rw [hkelvin]
    exact .inl (by decide +kernel)

/-! ## Words in a text -/

/-- No character vanishes in lower case. -/
lemma lowercaseFrom_eq_nil_iff {before s : List Char} : lowercaseFrom before s = [] ↔ s = [] := by
  cases s with
  | nil => simp [lowercaseFrom]
  | cons c s =>
    simp only [lowercaseFrom, List.append_eq_nil_iff, reduceCtorEq, iff_false, not_and]
    intro hnil
    by_cases h : IsAscii c
    · simp [lowercaseAt_of_ascii h] at hnil
    · obtain hat | hat | ⟨d, -, hat⟩ := lowercaseAt_of_not_ascii h before s <;> simp [hat] at hnil

/-- No plain word begins with what a character outside ASCII becomes. -/
lemma lowercaseAt_append_ne {c d : Char} {word : List Char} (h : Plain (c :: word))
    (hd : ¬ IsAscii d) (before after s rest : List Char) :
    lowercaseAt before d after ++ s ≠ c :: word ++ rest := by
  intro heq
  have hc := h.1 c List.mem_cons_self
  obtain hat | hat | ⟨e, he, hat⟩ := lowercaseAt_of_not_ascii hd before after
  · rw [hat, List.singleton_append, List.cons_append] at heq
    exact hc.2.2 (List.cons.inj heq).1.symm
  · rw [hat, List.cons_append, List.cons_append] at heq
    obtain ⟨hi, hdot⟩ := List.cons.inj heq
    -- After the `i` of a dotted capital stands its dot, which is no letter of the word.
    cases word with
    | nil => exact h.2 (by rw [← hi]; rfl)
    | cons e word =>
      have he := (h.1 e (by simp)).1
      rw [← (List.cons.inj hdot).1] at he
      exact absurd he (by decide)
  · rw [hat, List.singleton_append, List.cons_append] at heq
    exact he ((List.cons.inj heq).1 ▸ hc.1)

/-- A plain word at the front of the lower case form of a text stands at the front of the text, but
for the case of its letters. -/
theorem lowercaseFrom_eq_append_iff {word : List Char} (h : Plain word)
    {before s rest : List Char} :
    lowercaseFrom before s = word ++ rest ↔
      ∃ w t, s = w ++ t ∧ w.map Char.toLower = word ∧
        lowercaseFrom (w.reverse ++ before) t = rest := by
  -- Along the word; each of its letters is taken by one character of the text.
  induction word generalizing before s with
  | nil =>
    rw [List.nil_append]
    constructor
    · exact fun hs => ⟨[], s, rfl, rfl, hs⟩
    · rintro ⟨w, t, rfl, hw, ht⟩
      obtain rfl := List.map_eq_nil_iff.mp hw
      exact ht
  | cons c word ih =>
    cases s with
    | nil => simp [lowercaseFrom]
    | cons d s =>
      rw [lowercaseFrom]
      by_cases hd : IsAscii d
      · rw [lowercaseAt_of_ascii hd, List.singleton_append, List.cons_append, List.cons.injEq,
          ih h.tail]
        constructor
        · rintro ⟨rfl, w, t, rfl, rfl, ht⟩
          exact ⟨d :: w, t, rfl, rfl, by simpa using ht⟩
        · rintro ⟨w, t, hs, hw, ht⟩
          cases w with
          | nil => simp at hw
          | cons e w =>
            obtain ⟨rfl, rfl⟩ := List.cons.inj hs
            obtain ⟨rfl, rfl⟩ := List.cons.inj hw
            exact ⟨rfl, w, t, rfl, rfl, by simpa using ht⟩
      · refine iff_of_false (lowercaseAt_append_ne h hd _ _ _ _) ?_
        rintro ⟨w, t, hs, hw, -⟩
        cases w with
        | nil => simp at hw
        | cons e w =>
          obtain ⟨rfl, -⟩ := List.cons.inj hs
          have hlower : d.toLower = c := (List.cons.inj hw).1
          have hc := (h.1 c List.mem_cons_self).1
          exact hd ((isAscii_toLower_iff d).mp (hlower ▸ hc))

/-- A plain word is the lower case form of a text if the text is the word but for the case of its
letters. -/
theorem lowercase_eq_iff {word : List Char} (h : Plain word) (s : List Char) :
    lowercase s = word ↔ SameLetters s word := by
  rw [h.sameLetters_iff, lowercase]
  constructor
  · intro hs
    rw [← word.append_nil, lowercaseFrom_eq_append_iff h] at hs
    obtain ⟨w, t, rfl, hw, ht⟩ := hs
    rw [lowercaseFrom_eq_nil_iff.mp ht, List.append_nil, hw]
  · intro hs
    rw [← word.append_nil, lowercaseFrom_eq_append_iff h]
    exact ⟨s, [], by simp, hs, rfl⟩

lemma contains_eq_true_iff (needle s : List Char) : contains needle s = true ↔ needle <:+: s := by
  induction s with
  | nil => simp [contains]
  | cons c s ih =>
    rw [contains, Bool.or_eq_true, ih, List.isPrefixOf_iff_prefix, List.infix_cons_iff]

/-- A word that begins with another character is found behind it. -/
lemma infix_cons_iff_of_not_ascii {word : List Char} (h : Plain word) {d : Char} (hd : ¬ IsAscii d)
    (s : List Char) : word <:+: d :: s ↔ word <:+: s := by
  rw [List.infix_cons_iff, or_iff_right_iff_imp, List.prefix_cons_iff]
  rintro (rfl | ⟨t, rfl, -⟩)
  · exact List.nil_infix
  · exact absurd (h.1 d List.mem_cons_self).1 hd

lemma infix_lowercaseAt_iff {word : List Char} (h : Plain word) (before : List Char) (c : Char)
    (s rest : List Char) :
    word <:+: lowercaseAt before c s ++ rest ↔
      word <+: lowercaseAt before c s ++ rest ∨ word <:+: rest := by
  by_cases hc : IsAscii c
  · rw [lowercaseAt_of_ascii hc, List.singleton_append, List.infix_cons_iff]
  · obtain hat | hat | ⟨d, -, hat⟩ := lowercaseAt_of_not_ascii hc before s
    · rw [hat, List.singleton_append, List.infix_cons_iff]
    · have hdot : ¬ IsAscii '\u0307' := by decide
      rw [hat, List.cons_append, List.cons_append, List.infix_cons_iff, List.nil_append,
        infix_cons_iff_of_not_ascii h hdot]
    · rw [hat, List.singleton_append, List.infix_cons_iff]

lemma infix_lowercaseFrom_iff {word : List Char} (h : Plain word) (before s : List Char) :
    word <:+: lowercaseFrom before s ↔ ∃ w, w <:+: s ∧ w.map Char.toLower = word := by
  -- Along the text: the word is at its front, or in what follows the first character.
  induction s generalizing before with
  | nil => simp [lowercaseFrom]
  | cons c s ih =>
    have hfront : word <+: lowercaseFrom before (c :: s) ↔
        ∃ w, w <+: c :: s ∧ w.map Char.toLower = word := by
      constructor
      · rintro ⟨rest, hrest⟩
        obtain ⟨w, t, hs, hw, -⟩ := (lowercaseFrom_eq_append_iff h).mp hrest.symm
        exact ⟨w, ⟨t, hs.symm⟩, hw⟩
      · rintro ⟨w, ⟨t, hs⟩, hw⟩
        exact ⟨_, ((lowercaseFrom_eq_append_iff h).mpr ⟨w, t, hs.symm, hw, rfl⟩).symm⟩
    rw [lowercaseFrom] at hfront ⊢
    rw [infix_lowercaseAt_iff h, hfront, ih]
    simp only [List.infix_cons_iff, or_and_right, exists_or]

/-- A plain word occurs in the lower case form of a text if it occurs in the text, but for the case
of its letters. -/
theorem contains_lowercase_iff {word : List Char} (h : Plain word) (s : List Char) :
    contains word (lowercase s) = true ↔ ∃ w, w <:+: s ∧ SameLetters w word := by
  simp only [h.sameLetters_iff]
  rw [contains_eq_true_iff, lowercase, infix_lowercaseFrom_iff h]

end Unicode

end SnippetLint
