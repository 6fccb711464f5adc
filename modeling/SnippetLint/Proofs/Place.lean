import Mathlib.Order.Bounds.Basic
import Mathlib.Tactic.Lemma
import SnippetLint.Text.Cursor

/-!
# The places of a text

A place of a text is given by the way the text falls into two parts there. This file connects the
cursors that a search walks over with these pairs:

* `Cursor.skip`, the place reached by reading a text, with what it does to each field;
* `Cursor.places`, all places in order, with `mem_places` and `places_pairwise`;
* `IsFirst`, the first place with a property, and `IsFirst.least`, which turns it into a statement
  about byte offsets that no longer mentions cursors, in terms of `offsetsWhere` and
  `IsLeastOffset`.
-/

namespace SnippetLint

/-- The number of bytes of the UTF-8 form of a text. -/
def Text.utf8Length : List Char → Nat
  | [] => 0
  | c :: s => c.utf8Size + utf8Length s

open Text

@[simp] lemma utf8Length_nil : utf8Length [] = 0 := rfl

@[simp] lemma utf8Length_cons (c : Char) (s : List Char) :
    utf8Length (c :: s) = c.utf8Size + utf8Length s := rfl

/-- The bytes of two texts one after another are counted one after another. -/
@[simp] lemma utf8Length_append (s t : List Char) :
    utf8Length (s ++ t) = utf8Length s + utf8Length t := by
  induction s with
  | nil => simp
  | cons c s ih =>
    rw [List.cons_append, utf8Length_cons, utf8Length_cons, ih]
    omega

lemma utf8Length_eq_zero {s : List Char} : utf8Length s = 0 ↔ s = [] := by
  cases s with
  | nil => simp
  | cons c s =>
    have hc := c.utf8Size_pos
    simp only [utf8Length_cons, reduceCtorEq, iff_false]
    omega

/-- A text falls into two parts at a byte offset in one way only. -/
lemma append_inj_of_utf8Length {u v x y : List Char} (h : u ++ x = v ++ y)
    (hlength : utf8Length u = utf8Length v) : u = v ∧ x = y := by
  rcases List.append_eq_append_iff.mp h with ⟨w, rfl, rfl⟩ | ⟨w, rfl, rfl⟩
  · rw [utf8Length_append] at hlength
    obtain rfl := utf8Length_eq_zero.mp (show utf8Length w = 0 by omega)
    simp
  · rw [utf8Length_append] at hlength
    obtain rfl := utf8Length_eq_zero.mp (show utf8Length w = 0 by omega)
    simp

namespace Cursor

/-! ## Reading a text from a place -/

/-- The place reached from `cur` by reading a text that follows it. -/
def skip (cur : Cursor) : List Char → Cursor
  | [] => cur
  | c :: w => skip (cur.past c cur.rest.tail) w

@[simp] lemma skip_nil (cur : Cursor) : cur.skip [] = cur := rfl

lemma skip_cons (cur : Cursor) (c : Char) (w : List Char) :
    cur.skip (c :: w) = (cur.past c cur.rest.tail).skip w := rfl

lemma skip_append (cur : Cursor) (u v : List Char) :
    cur.skip (u ++ v) = (cur.skip u).skip v := by
  induction u generalizing cur with
  | nil => rfl
  | cons c u ih => exact ih _

/-- One character read. -/
lemma past_eq_skip {cur : Cursor} {c : Char} {rest : List Char} (h : cur.rest = c :: rest) :
    cur.past c rest = cur.skip [c] := by
  rw [skip_cons, h]
  rfl

/-- Reading a character gets on. -/
lemma past_ne (cur : Cursor) (c : Char) (rest : List Char) : cur.past c rest ≠ cur := by
  intro h
  have hoffset := congrArg Cursor.offset h
  have hc := c.utf8Size_pos
  simp only [past] at hoffset
  omega

/-- When a text has been read, what is left is the rest. -/
lemma rest_skip {cur : Cursor} {w rest : List Char} (h : cur.rest = w ++ rest) :
    (cur.skip w).rest = rest := by
  induction w generalizing cur with
  | nil => exact h
  | cons c w ih =>
    apply ih
    rw [h]
    rfl

/-- Each byte that is read counts for the offset. -/
@[simp] lemma offset_skip (cur : Cursor) (w : List Char) :
    (cur.skip w).offset = cur.offset + utf8Length w := by
  induction w generalizing cur with
  | nil => rfl
  | cons c w ih =>
    rw [skip_cons, ih, utf8Length_cons]
    simp only [past]
    omega

/-- Each line feed that is read counts for the line. -/
@[simp] lemma line_skip (cur : Cursor) (w : List Char) :
    (cur.skip w).line = cur.line + w.count '\n' := by
  induction w generalizing cur with
  | nil => rfl
  | cons c w ih =>
    rw [skip_cons, ih, List.count_cons]
    simp only [past, beq_iff_eq]
    split <;> omega

/-! ## All places of a text -/

/-- The place between the two parts of a text. -/
def between (before rest : List Char) : Cursor := (start (before ++ rest)).skip before

@[simp] lemma rest_between (before rest : List Char) : (between before rest).rest = rest :=
  rest_skip rfl

@[simp] lemma offset_between (before rest : List Char) :
    (between before rest).offset = utf8Length before := by
  simp [between, start]

@[simp] lemma line_between (before rest : List Char) :
    (between before rest).line = before.count '\n' + 1 := by
  rw [between, line_skip, Nat.add_comm]
  rfl

/-- The places of the text that follows a place, first place first. -/
def placesFrom (cur : Cursor) : List Char → List Cursor
  | [] => [cur]
  | c :: rest => cur :: placesFrom (cur.past c rest) rest

/-- The places of a text, first place first. -/
def places (text : List Char) : List Cursor := placesFrom (start text) text

/-- A search goes through the places backwards. -/
lemma trailOnto_eq (seen : List Cursor) (cur : Cursor) (s : List Char) :
    trailOnto seen cur s = (placesFrom cur s).reverse ++ seen := by
  induction s generalizing seen cur with
  | nil => rfl
  | cons c rest ih => simp [trailOnto, placesFrom, ih]

lemma trail_eq (text : List Char) : trail text = (places text).reverse := by
  rw [trail, trailOnto_eq, List.append_nil, places]

/-- The places from a cursor on are those that one gets to by reading a part of the text. -/
lemma mem_placesFrom {cur p : Cursor} {s : List Char} (h : cur.rest = s) :
    p ∈ placesFrom cur s ↔ ∃ u v, s = u ++ v ∧ p = cur.skip u := by
  -- Along the text: a place is `cur` itself or comes after the first character.
  induction s generalizing cur with
  | nil => simp [placesFrom, eq_comm (a := ([] : List Char))]
  | cons c rest ih =>
    rw [placesFrom, List.mem_cons, ih rfl]
    constructor
    · intro hp
      rcases hp with rfl | ⟨u, v, rfl, rfl⟩
      · exact ⟨[], c :: rest, rfl, rfl⟩
      · refine ⟨c :: u, v, rfl, ?_⟩
        rw [skip_cons, h]
        rfl
    · intro hp
      obtain ⟨u, v, huv, rfl⟩ := hp
      cases u with
      | nil => exact .inl rfl
      | cons d u =>
        obtain ⟨rfl, rfl⟩ : c = d ∧ rest = u ++ v := by simpa using huv
        refine .inr ⟨u, v, rfl, ?_⟩
        rw [skip_cons, h]
        rfl

/-- The places of a text are where it falls into two parts. -/
lemma mem_places {p : Cursor} {text : List Char} :
    p ∈ places text ↔ ∃ before rest, text = before ++ rest ∧ p = between before rest := by
  rw [places, mem_placesFrom (show (start text).rest = text from rfl)]
  constructor
  · intro h
    obtain ⟨before, rest, rfl, rfl⟩ := h
    exact ⟨before, rest, rfl, rfl⟩
  · intro h
    obtain ⟨before, rest, rfl, rfl⟩ := h
    exact ⟨before, rest, rfl, rfl⟩

/-- Lines are counted from one. -/
lemma one_le_line {p : Cursor} {text : List Char} (h : p ∈ places text) : 1 ≤ p.line := by
  obtain ⟨before, rest, -, rfl⟩ := mem_places.mp h
  rw [line_between]
  omega

/-- From a place of a text one gets to the later places by reading on. -/
lemma exists_eq_skip {p q : Cursor} {text : List Char} (hp : p ∈ places text)
    (hq : q ∈ places text) (hle : p.offset ≤ q.offset) :
    ∃ u, p.rest = u ++ q.rest ∧ q = p.skip u := by
  obtain ⟨before, rest, rfl, rfl⟩ := mem_places.mp hp
  obtain ⟨before', rest', htext, rfl⟩ := mem_places.mp hq
  simp only [rest_between, offset_between] at hle ⊢
  rcases List.append_eq_append_iff.mp htext with ⟨u, rfl, rfl⟩ | ⟨u, rfl, rfl⟩
  · exact ⟨u, rfl, by rw [between, between, skip_append, List.append_assoc]⟩
  · rw [utf8Length_append] at hle
    obtain rfl := utf8Length_eq_zero.mp (show utf8Length u = 0 by omega)
    exact ⟨[], rfl, by simp⟩

lemma exists_rest_eq_append {p q : Cursor} {text : List Char} (hp : p ∈ places text)
    (hq : q ∈ places text) (hle : p.offset ≤ q.offset) :
    ∃ u, p.rest = u ++ q.rest ∧ q.offset = p.offset + utf8Length u := by
  obtain ⟨u, hrest, hskip⟩ := exists_eq_skip hp hq hle
  exact ⟨u, hrest, by rw [hskip, offset_skip]⟩

/-- A place with a smaller offset is not on a later line. -/
lemma line_le_of_offset_le {p q : Cursor} {text : List Char} (hp : p ∈ places text)
    (hq : q ∈ places text) (hle : p.offset ≤ q.offset) : p.line ≤ q.line := by
  obtain ⟨u, -, hskip⟩ := exists_eq_skip hp hq hle
  rw [hskip, line_skip]
  omega

lemma placesFrom_pairwise (cur : Cursor) (s : List Char) :
    (placesFrom cur s).Pairwise (·.offset < ·.offset) ∧
      ∀ p ∈ placesFrom cur s, cur.offset ≤ p.offset := by
  -- Along the text: a character has some bytes, so all later places are behind `cur`.
  induction s generalizing cur with
  | nil => simp [placesFrom]
  | cons c rest ih =>
    obtain ⟨hpair, hle⟩ := ih (cur.past c rest)
    have hc := c.utf8Size_pos
    have hlt : ∀ p ∈ placesFrom (cur.past c rest) rest, cur.offset < p.offset := by
      intro p hp
      have := hle p hp
      simp only [past] at this
      omega
    refine ⟨List.pairwise_cons.mpr ⟨hlt, hpair⟩, ?_⟩
    intro p hp
    rcases hp with _ | ⟨_, hp⟩
    · exact le_refl _
    · exact (hlt p hp).le

/-- Every place comes before those with a larger offset. -/
lemma places_pairwise (text : List Char) : (places text).Pairwise (·.offset < ·.offset) :=
  (placesFrom_pairwise _ _).1

end Cursor

open Cursor

/-! ## The first place with a property -/

/-- `found` is the first of the places with a property, if there is one at all. -/
def IsFirst (Q : Cursor → Prop) (ps : List Cursor) (found : Option Cursor) : Prop :=
  match found with
  | none => ∀ p ∈ ps, ¬ Q p
  | some p => ∃ earlier later, ps = earlier ++ p :: later ∧ Q p ∧ ∀ q ∈ earlier, ¬ Q q

/-- The byte offsets of a text at which what follows has a property. -/
def offsetsWhere (P : List Char → Prop) (text : List Char) : Set Nat :=
  {i | ∃ before rest, text = before ++ rest ∧ i = utf8Length before ∧ P rest}

@[simp] lemma utf8Length_mem_offsetsWhere {P : List Char → Prop} {before rest : List Char} :
    utf8Length before ∈ offsetsWhere P (before ++ rest) ↔ P rest := by
  constructor
  · intro h
    obtain ⟨before', rest', htext, hlength, hP⟩ := h
    obtain ⟨-, rfl⟩ := append_inj_of_utf8Length htext hlength
    exact hP
  · intro hP
    exact ⟨before, rest, rfl, rfl, hP⟩

/-- `found` is the least of some offsets; it is missing only if there is none. -/
def IsLeastOffset (found : Option Nat) (offsets : Set Nat) : Prop :=
  match found with
  | none => offsets = ∅
  | some i => IsLeast offsets i

/-- Such an offset is that of a place at which what is left has the property. -/
lemma mem_offsetsWhere {P : List Char → Prop} {text : List Char} {i : Nat} :
    i ∈ offsetsWhere P text ↔ ∃ p ∈ places text, p.offset = i ∧ P p.rest := by
  constructor
  · intro h
    obtain ⟨before, rest, htext, rfl, hP⟩ := h
    exact ⟨between before rest, mem_places.mpr ⟨before, rest, htext, rfl⟩, by simp, by simpa⟩
  · intro h
    obtain ⟨p, hp, rfl, hP⟩ := h
    obtain ⟨before, rest, htext, rfl⟩ := mem_places.mp hp
    exact ⟨before, rest, htext, by simp, by simpa using hP⟩

/-- An offset is found exactly if there is any. -/
lemma IsLeastOffset.isSome_iff {found : Option Nat} {offsets : Set Nat}
    (h : IsLeastOffset found offsets) : found.isSome ↔ offsets.Nonempty := by
  cases found with
  | none =>
    rw [IsLeastOffset] at h
    simp [h]
  | some i => simpa using ⟨i, h.1⟩

/-- The least offset is also that of some of the offsets, if each of the others has one of them
before it. -/
lemma IsLeastOffset.of_subset {found : Option Nat} {offsets starts : Set Nat}
    (h : IsLeastOffset found offsets) (hsub : starts ⊆ offsets)
    (hle : ∀ i ∈ offsets, ∃ j ∈ starts, j ≤ i) : IsLeastOffset found starts := by
  cases found with
  | none =>
    rw [IsLeastOffset] at h ⊢
    exact Set.subset_eq_empty hsub h
  | some i =>
    obtain ⟨j, hj, hji⟩ := hle i h.1
    -- `j` is one of all offsets too, so `i` is no larger.
    have hij : i = j := le_antisymm (h.2 (hsub hj)) hji
    exact ⟨hij ▸ hj, fun k hk => h.2 (hsub hk)⟩

/-- A place with a property is the first one if no place before it has the property. -/
lemma IsFirst.of_le {Q : Cursor → Prop} {text : List Char} {p : Cursor} (hp : p ∈ places text)
    (hQ : Q p) (hle : ∀ q ∈ places text, Q q → p.offset ≤ q.offset) :
    IsFirst Q (places text) (some p) := by
  obtain ⟨earlier, later, hps⟩ := List.append_of_mem hp
  refine ⟨earlier, later, hps, hQ, fun q hq hQq => ?_⟩
  have hpair := places_pairwise text
  rw [hps, List.pairwise_append] at hpair
  have hlt := hpair.2.2 q hq p List.mem_cons_self
  have := hle q (by simp [hps, hq]) hQq
  omega

/-- No place with the property is before the first one. -/
lemma IsFirst.offset_le {Q : Cursor → Prop} {text : List Char} {p q : Cursor}
    (h : IsFirst Q (places text) (some p)) (hq : q ∈ places text) (hQ : Q q) :
    p.offset ≤ q.offset := by
  obtain ⟨earlier, later, hps, -, hearlier⟩ := h
  have hpair := places_pairwise text
  rw [hps, List.pairwise_append, List.pairwise_cons] at hpair
  rw [hps, List.mem_append, List.mem_cons] at hq
  obtain hq | rfl | hq := hq
  · exact absurd hQ (hearlier q hq)
  · exact le_rfl
  · exact (hpair.2.1.1 q hq).le

/-- The first place where what follows has a property is the one with the least offset. -/
lemma IsFirst.least {P : List Char → Prop} {text : List Char} {found : Option Cursor}
    (h : IsFirst (fun p => P p.rest) (places text) found) :
    IsLeastOffset (found.map (·.offset)) (offsetsWhere P text) := by
  cases found with
  | none =>
    rw [Option.map_none, IsLeastOffset, Set.eq_empty_iff_forall_notMem]
    intro i hi
    obtain ⟨p, hp, -, hP⟩ := mem_offsetsWhere.mp hi
    exact h p hp hP
  | some p =>
    refine ⟨?_, fun i hi => ?_⟩
    · obtain ⟨earlier, later, hps, hP, -⟩ := h
      exact mem_offsetsWhere.mpr ⟨p, by simp [hps], rfl, hP⟩
    · obtain ⟨q, hq, rfl, hQ⟩ := mem_offsetsWhere.mp hi
      exact h.offset_le hq hQ

lemma IsFirst.head {Q : Cursor → Prop} {p : Cursor} {ps : List Cursor} (h : Q p) :
    IsFirst Q (p :: ps) (some p) :=
  ⟨[], ps, rfl, h, by simp⟩

/-- A place without the property can be put in front. -/
lemma IsFirst.cons {Q : Cursor → Prop} {p : Cursor} {ps : List Cursor} {found : Option Cursor}
    (h : IsFirst Q ps found) (hp : ¬ Q p) : IsFirst Q (p :: ps) found := by
  cases found with
  | none =>
    intro q hq
    rcases hq with _ | ⟨_, hq⟩
    · exact hp
    · exact h q hq
  | some q =>
    obtain ⟨earlier, later, rfl, hQ, hearlier⟩ := h
    refine ⟨p :: earlier, later, rfl, hQ, ?_⟩
    intro q hq
    rcases hq with _ | ⟨_, hq⟩
    · exact hp
    · exact hearlier q hq

/-- A property with the same meaning has the same first place. -/
lemma IsFirst.congr {Q R : Cursor → Prop} {ps : List Cursor} {found : Option Cursor}
    (h : IsFirst Q ps found) (hQR : ∀ p ∈ ps, Q p ↔ R p) : IsFirst R ps found := by
  cases found with
  | none => exact fun p hp hR => h p hp ((hQR p hp).mpr hR)
  | some p =>
    obtain ⟨earlier, later, rfl, hQ, hearlier⟩ := h
    refine ⟨earlier, later, rfl, (hQR p (by simp)).mp hQ, fun q hq hR => ?_⟩
    exact hearlier q hq ((hQR q (by simp [hq])).mpr hR)

/-- A first place is found exactly if there is any. -/
lemma IsFirst.isSome_iff {Q : Cursor → Prop} {ps : List Cursor} {found : Option Cursor}
    (h : IsFirst Q ps found) : found.isSome ↔ ∃ p ∈ ps, Q p := by
  cases found with
  | none => simpa [IsFirst] using h
  | some p =>
    obtain ⟨earlier, later, rfl, hQ, -⟩ := h
    simp only [Option.isSome_some, true_iff]
    exact ⟨p, by simp, hQ⟩

end SnippetLint
