import SnippetLint.Builtin
import SnippetLint.Proofs.Search
import SnippetLint.Proofs.WhiteSpace

/-!
# The words that an expression reads

An expression without assertions reads the same words wherever they stand. `Reads r L` says that
the words read by `r` are those of a kind `L`, a kind of text being a predicate. The kinds are put
together from few forms:

* `Text.Run` and `Text.All`, texts of one or more, or of any number of, characters of a class;
* `Text.Parts`, texts that consist of one part of each of several kinds, in order;
* `Text.Unambiguous`, which says that a list of parts can be found at the front of a text in one
  way only;
* `Text.firstLine`, the text up to its first line feed.

With `Reads`, the search for an expression is described without cursors: `Reads.find?_least` gives
the byte offset of the leftmost match and `Reads.occursIn_iff` what it takes for a match to be
there at all.
-/

namespace SnippetLint

/-! ## Kinds of texts -/

namespace Text

/-- Any number of characters of a class. -/
def All (p : Char → Bool) (w : List Char) : Prop := ∀ c ∈ w, p c = true

/-- One or more characters of a class. -/
def Run (p : Char → Bool) (w : List Char) : Prop := w ≠ [] ∧ All p w

/-- A text without a character is one of other characters only. -/
lemma all_ne_iff {d : Char} {w : List Char} : All (· != d) w ↔ d ∉ w := by
  constructor
  · intro hall hd
    simpa using hall d hd
  · intro hd c hc
    rw [bne_iff_ne]
    exact ne_of_mem_of_not_mem hc hd

/-- What is left of a text without the characters of a class at its front begins with another
character, if anything is left. -/
lemma any_head?_dropWhile (p : Char → Bool) (s : List Char) :
    (s.dropWhile p).head?.any p = false := by
  have hhead := List.head?_dropWhile_not p s
  cases hdrop : (s.dropWhile p).head? with
  | none => rfl
  | some c =>
    rw [hdrop] at hhead
    simpa using hhead

-- By going through the text; the characters themselves are too many to go through.
instance (p : Char → Bool) (w : List Char) : Decidable (All p w) :=
  List.decidableBAll (fun c => p c = true) w

instance (p : Char → Bool) (w : List Char) : Decidable (Run p w) :=
  inferInstanceAs (Decidable (w ≠ [] ∧ All p w))

/-- A text that consists of one part of each kind, in order. -/
def Parts : List (List Char → Prop) → List Char → Prop
  | [], w => w = []
  | L :: Ls, w => ∃ u v, w = u ++ v ∧ L u ∧ Parts Ls v

@[simp] lemma parts_nil {w : List Char} : Parts [] w ↔ w = [] := Iff.rfl

/-- A text of parts is split where its first part ends. -/
lemma parts_cons {L : List Char → Prop} {Ls : List (List Char → Prop)} {w : List Char} :
    Parts (L :: Ls) w ↔ ∃ u v, w = u ++ v ∧ L u ∧ Parts Ls v := Iff.rfl

@[simp] lemma parts_singleton {L : List Char → Prop} {w : List Char} : Parts [L] w ↔ L w := by
  simp [parts_cons]

/-- A text of parts can be split between any two of them. -/
lemma parts_append {Ls Ms : List (List Char → Prop)} {w : List Char} :
    Parts (Ls ++ Ms) w ↔ ∃ u v, w = u ++ v ∧ Parts Ls u ∧ Parts Ms v := by
  induction Ls generalizing w with
  | nil => simp
  | cons L Ls ih =>
    simp only [List.cons_append, parts_cons, ih]
    constructor
    · intro h
      obtain ⟨u, _, rfl, hu, v, x, rfl, hv, hx⟩ := h
      exact ⟨u ++ v, x, by simp, ⟨u, v, rfl, hu, hv⟩, hx⟩
    · intro h
      obtain ⟨_, x, rfl, ⟨u, v, rfl, hu, hv⟩, hx⟩ := h
      exact ⟨u, v ++ x, by simp, hu, v, x, rfl, hv, hx⟩

/-- A first part that is known is known to be the front of the text. -/
lemma parts_literal_cons {t : List Char} {Ls : List (List Char → Prop)} {w : List Char} :
    Parts ((· = t) :: Ls) w ↔ ∃ v, w = t ++ v ∧ Parts Ls v := by
  rw [parts_cons]
  constructor
  · intro h
    obtain ⟨_, v, rfl, rfl, hv⟩ := h
    exact ⟨v, rfl, hv⟩
  · intro h
    obtain ⟨v, rfl, hv⟩ := h
    exact ⟨t, v, rfl, rfl, hv⟩

/-- Parts of a part are parts of the whole. -/
lemma parts_flatten {Ls Ms : List (List Char → Prop)} {w : List Char} :
    Parts (Parts Ls :: Ms) w ↔ Parts (Ls ++ Ms) w := by
  rw [parts_append, parts_cons]

lemma parts_pair {Ls Ms : List (List Char → Prop)} {w : List Char} :
    Parts [Parts Ls, Parts Ms] w ↔ Parts (Ls ++ Ms) w := by
  rw [parts_flatten, parts_append, parts_append]
  simp only [parts_singleton]

/-! ## The first line of a text -/

/-- The text up to its first line feed. -/
def firstLine (s : List Char) : List Char := s.takeWhile (· != '\n')

/-- The first line is empty if the text ends there or goes on with a line feed. -/
lemma firstLine_eq_nil_iff (s : List Char) : firstLine s = [] ↔ s.head?.all (· == '\n') = true := by
  cases s with
  | nil => simp [firstLine]
  | cons c s => simp [firstLine, List.takeWhile_cons]

/-- What follows a line feed is on another line. -/
@[simp] lemma firstLine_append_lineFeed (s after : List Char) :
    firstLine (s ++ '\n' :: after) = firstLine s := by
  rw [firstLine, List.takeWhile_append]
  split
  · next hlength =>
    have hs := (List.takeWhile_prefix (· != '\n')).eq_of_length hlength
    simp [firstLine, hs]
  · rfl

/-- What follows the first line begins with a line feed, if there is anything. -/
lemma exists_firstLine_append (s : List Char) :
    ∃ after, s = firstLine s ++ after ∧ firstLine after = [] := by
  refine ⟨s.dropWhile (· != '\n'), List.takeWhile_append_dropWhile.symm, ?_⟩
  have hhead := any_head?_dropWhile (· != '\n') s
  rw [firstLine_eq_nil_iff]
  cases hdrop : (s.dropWhile (· != '\n')).head? with
  | none => rfl
  | some c =>
    rw [hdrop] at hhead
    simpa using hhead

/-! ## Parts that can be found in one way only -/

/-- The parts at the front of a text end at one place only. -/
def Unambiguous (Ls : List (List Char → Prop)) : Prop :=
  ∀ u v x y, Parts Ls u → Parts Ls v → u ++ x = v ++ y → u = v ∧ x = y

/-- Parts that begin with a character outside a class. -/
def Stops (p : Char → Bool) (Ls : List (List Char → Prop)) : Prop :=
  ∀ w, Parts Ls w → ∃ c v, w = c :: v ∧ p c = false

/-- A run goes as far as it can in front of a run of other characters. -/
lemma Stops.run {Ls : List (List Char → Prop)} {p q : Char → Bool}
    (hpq : ∀ c, q c = true → p c = false) : Stops p (Run q :: Ls) := by
  intro w hw
  obtain ⟨u, v, rfl, ⟨hne, hall⟩, -⟩ := hw
  cases u with
  | nil => exact absurd rfl hne
  | cons c u => exact ⟨c, u ++ v, rfl, hpq c (hall c List.mem_cons_self)⟩

/-- A run goes as far as it can in front of a text that begins with another character. -/
lemma Stops.literal {Ls : List (List Char → Prop)} {p : Char → Bool} {t : List Char}
    (ht : t.head?.any (fun c => !p c) = true) : Stops p ((· = t) :: Ls) := by
  intro w hw
  obtain ⟨_, v, rfl, rfl, -⟩ := hw
  obtain ⟨c, hhead, hc⟩ := (Option.any_eq_true _ _).mp ht
  obtain ⟨t', rfl⟩ := List.head?_eq_some_iff.mp hhead
  exact ⟨c, t' ++ v, rfl, by simpa using hc⟩

namespace Unambiguous

variable {Ls : List (List Char → Prop)} {p : Char → Bool}

lemma nil : Unambiguous [] := by
  intro u v x y hu hv h
  obtain rfl : u = [] := hu
  obtain rfl : v = [] := hv
  exact ⟨rfl, h⟩

/-- Where a known text ends is clear. -/
lemma literal (t : List Char) (h : Unambiguous Ls) : Unambiguous ((· = t) :: Ls) := by
  intro _ _ x y hfirst hsecond heq
  obtain ⟨t, u, rfl, rfl, hu⟩ := hfirst
  obtain ⟨_, v, rfl, rfl, hv⟩ := hsecond
  rw [List.append_assoc, List.append_assoc] at heq
  obtain ⟨rfl, hxy⟩ := h u v x y hu hv (List.append_cancel_left heq)
  exact ⟨rfl, hxy⟩

/-- Where a run ends before a character of another class, it ends at one place only. -/
lemma all_append {u v x y : List Char} (hu : All p u) (hv : All p v)
    (hx : x.head?.any p = false) (hy : y.head?.any p = false) (h : u ++ x = v ++ y) :
    u = v ∧ x = y := by
  -- The run can be read off the whole text as what comes before another class.
  have hend : ∀ {w z : List Char}, All p w → z.head?.any p = false →
      (w ++ z).takeWhile p = w := by
    intro w z hw hz
    rw [List.takeWhile_append_of_pos hw]
    cases z with
    | nil => simp
    | cons c z => simp_all
  have huv : u = v := by rw [← hend hu hx, h, hend hv hy]
  subst huv
  exact ⟨rfl, List.append_cancel_left h⟩

/-- Characters of a class end where what comes next cannot go on with one of them. -/
lemma all (hstop : Stops p Ls) (h : Unambiguous Ls) : Unambiguous (All p :: Ls) := by
  intro _ _ x y hfirst hsecond heq
  obtain ⟨a, u, rfl, ha, hu⟩ := hfirst
  obtain ⟨b, v, rfl, hb, hv⟩ := hsecond
  obtain ⟨c, u', rfl, hc⟩ := hstop u hu
  obtain ⟨d, v', rfl, hd⟩ := hstop v hv
  rw [List.append_assoc, List.append_assoc] at heq
  obtain ⟨rfl, htail⟩ := all_append ha hb (by simp [hc]) (by simp [hd]) heq
  obtain ⟨huv, hxy⟩ := h _ _ x y hu hv htail
  rw [huv]
  exact ⟨rfl, hxy⟩

/-- A run ends where what comes next cannot go on with one of its characters. -/
lemma run (hstop : Stops p Ls) (h : Unambiguous Ls) : Unambiguous (Run p :: Ls) := by
  intro u v x y hfirst hsecond heq
  obtain ⟨a, u', rfl, ⟨-, ha⟩, hu⟩ := hfirst
  obtain ⟨b, v', rfl, ⟨-, hb⟩, hv⟩ := hsecond
  exact all hstop h _ _ x y ⟨a, u', rfl, ha, hu⟩ ⟨b, v', rfl, hb, hv⟩ heq

end Unambiguous

/-- Parts that can be read in one way only decide for themselves whether they count. -/
lemma mem_offsetsWhere_of_unambiguous {Ls : List (List Char → Prop)} (h : Unambiguous Ls)
    {Q : List Char → Prop} {head : List Char} (hhead : Parts Ls head)
    (before rest : List Char) :
    utf8Length before ∈
        offsetsWhere (fun s => ∃ u v, s = u ++ v ∧ Parts Ls u ∧ Q v) (before ++ (head ++ rest)) ↔
      Q rest := by
  rw [utf8Length_mem_offsetsWhere]
  constructor
  · intro hs
    obtain ⟨u, v, huv, hu, hv⟩ := hs
    obtain ⟨-, rfl⟩ := h head u rest v hhead hu huv
    exact hv
  · intro hrest
    exact ⟨head, rest, rfl, hhead, hrest⟩

end Text

namespace Pattern

open Text Cursor Regex

/-- The place is at the end of a line. -/
lemma lineEnd_holds_iff (cur : Cursor) :
    (Assertion.lineEnd false).holds cur = true ↔ firstLine cur.rest = [] := by
  rw [firstLine_eq_nil_iff, Assertion.holds, Cursor.after]
  cases cur.rest.head? <;> rfl

/-! ## Words of an expression -/

/-- The words that `r` reads are those of a kind, wherever they stand. -/
def Reads (r : PlainRegex) (L : List Char → Prop) : Prop :=
  ∀ cur stop, Matches r cur stop ↔ ∃ w rest, cur.rest = w ++ rest ∧ stop = cur.skip w ∧ L w

/-- Which words an expression reads does not depend on how they are described. -/
lemma Reads.congr {r : PlainRegex} {L M : List Char → Prop} (h : Reads r L)
    (hLM : ∀ w, L w ↔ M w) : Reads r M := by
  intro cur stop
  simp only [h cur stop, hLM]

lemma reads_empty : Reads .empty (· = []) := by
  intro cur stop
  constructor
  · intro h
    cases h
    exact ⟨[], cur.rest, rfl, rfl, rfl⟩
  · intro hw
    obtain ⟨w, rest, -, rfl, rfl⟩ := hw
    exact .empty cur

/-- A character of a set is read from one character. -/
lemma reads_oneOf (s : CharSet) : Reads (oneOf s) fun w => ∃ c, w = [c] ∧ s.contains c = true := by
  intro cur stop
  rw [oneOf, matches_set_iff]
  constructor
  · intro h
    obtain ⟨c, rest, hrest, hc, rfl⟩ := h
    exact ⟨[c], rest, hrest, past_eq_skip hrest, c, rfl, hc⟩
  · intro h
    obtain ⟨_, rest, hrest, rfl, c, rfl, hc⟩ := h
    exact ⟨c, rest, hrest, hc, (past_eq_skip hrest).symm⟩

/-- Two expressions one after another read the words of the one and then those of the other. -/
lemma Reads.cat {r s : PlainRegex} {L M : List Char → Prop} (hr : Reads r L) (hs : Reads s M) :
    Reads (.cat r s) fun w => ∃ u v, w = u ++ v ∧ L u ∧ M v := by
  intro cur stop
  rw [matches_cat_iff]
  constructor
  · intro h
    obtain ⟨mid, hfirst, hsecond⟩ := h
    obtain ⟨u, x, hx, rfl, hu⟩ := (hr _ _).mp hfirst
    obtain ⟨v, y, hy, rfl, hv⟩ := (hs _ _).mp hsecond
    rw [rest_skip hx] at hy
    subst hy
    exact ⟨u ++ v, y, by simpa using hx, (skip_append cur u v).symm, u, v, rfl, hu, hv⟩
  · intro h
    obtain ⟨_, rest, hrest, rfl, u, v, rfl, hu, hv⟩ := h
    rw [List.append_assoc] at hrest
    refine ⟨cur.skip u, (hr _ _).mpr ⟨u, v ++ rest, hrest, rfl, hu⟩, (hs _ _).mpr ?_⟩
    exact ⟨v, rest, rest_skip hrest, skip_append cur u v, hv⟩

lemma matches_seq_cons {r : PlainRegex} {rs : List PlainRegex} {cur stop : Cursor} :
    Matches (seq (r :: rs)) cur stop ↔ Matches (.cat r (seq rs)) cur stop := by
  cases rs with
  | nil =>
    rw [matches_cat_iff]
    constructor
    · exact fun h => ⟨stop, h, .empty stop⟩
    · intro h
      obtain ⟨mid, hr, hempty⟩ := h
      cases hempty
      exact hr
  | cons s rs => rfl

lemma reads_nil : Reads (seq []) (Parts []) := reads_empty

/-- Expressions in a row read parts in a row. -/
lemma Reads.cons {r : PlainRegex} {rs : List PlainRegex} {L : List Char → Prop}
    {Ls : List (List Char → Prop)} (hr : Reads r L) (hrs : Reads (seq rs) (Parts Ls)) :
    Reads (seq (r :: rs)) (Parts (L :: Ls)) :=
  fun cur stop => matches_seq_cons.trans (hr.cat hrs cur stop)

/-- A text is read as it stands. -/
lemma reads_text (t : String) : Reads (text t) (· = t.toList) := by
  have key : ∀ s : List Char, Reads (seq (s.map fun c => oneOf (.single c))) (· = s) := by
    intro s
    induction s with
    | nil => exact reads_empty
    | cons c s ih =>
      have hc : Reads (oneOf (.single c)) (· = [c]) :=
        (reads_oneOf _).congr fun w => by simp [CharSet.single, CharSet.contains]
      have hs : Reads (seq (s.map fun c => oneOf (.single c))) (Parts [(· = s)]) :=
        ih.congr fun w => (parts_singleton (L := (· = s))).symm
      exact (hc.cons hs).congr fun w => by simp [parts_cons]
  exact key t.toList

/-- A loop over a class reads the runs of its characters. -/
lemma reads_plus (s : CharSet) (greedy : Bool) :
    Reads ((oneOf s).plus greedy) (Run s.contains) := by
  intro cur stop
  constructor
  · intro h
    -- Turn by turn, each of which reads one character.
    induction h using Matches.plus_induction with
    | last cur stop turn =>
      obtain ⟨_, rest, hrest, hstop, c, rfl, hc⟩ := (reads_oneOf s _ _).mp turn
      exact ⟨[c], rest, hrest, hstop, by simp, by simpa [All] using hc⟩
    | more cur mid stop turn loop ih =>
      obtain ⟨_, x, hx, rfl, c, rfl, hc⟩ := (reads_oneOf s _ _).mp turn
      obtain ⟨w, rest, hrest, rfl, -, hall⟩ := ih
      rw [rest_skip hx] at hrest
      subst hrest
      exact ⟨c :: w, rest, hx, rfl, by simp, by simpa [All, hc] using hall⟩
  · intro hw
    obtain ⟨w, rest, hrest, rfl, hne, hall⟩ := hw
    -- Character by character: one turn for each, and the last turn for the last one.
    induction w generalizing cur with
    | nil => exact absurd rfl hne
    | cons c w ih =>
      obtain ⟨hc, hw⟩ : s.contains c = true ∧ All s.contains w := by simpa [All] using hall
      have hturn : Matches (oneOf s) cur (cur.skip [c]) :=
        (reads_oneOf s _ _).mpr ⟨[c], w ++ rest, hrest, rfl, c, rfl, hc⟩
      cases w with
      | nil => exact .plusLast hturn
      | cons d w =>
        exact .plusMore hturn (ih (cur.skip [c]) (rest_skip (w := [c]) hrest) (by simp) hw)

/-- A repetition that may be empty reads all texts of characters of its set. -/
lemma reads_star (s : CharSet) (greedy : Bool) :
    Reads ((oneOf s).star greedy) (All s.contains) := by
  intro cur stop
  have hstar : Matches ((oneOf s).star greedy) cur stop ↔
      Matches ((oneOf s).plus greedy) cur stop ∨ Matches (.empty : PlainRegex) cur stop := by
    cases greedy with
    | true => exact matches_alt_iff
    | false => exact matches_alt_iff.trans or_comm
  rw [hstar, reads_plus s greedy cur stop, reads_empty cur stop]
  constructor
  · intro h
    rcases h with ⟨w, rest, hrest, hstop, -, hall⟩ | ⟨_, rest, hrest, hstop, rfl⟩
    · exact ⟨w, rest, hrest, hstop, hall⟩
    · exact ⟨[], rest, hrest, hstop, by simp [All]⟩
  · intro h
    obtain ⟨w, rest, hrest, hstop, hall⟩ := h
    by_cases hw : w = []
    · exact .inr ⟨w, rest, hrest, hstop, hw⟩
    · exact .inl ⟨w, rest, hrest, hstop, hw, hall⟩

/-! ## The pieces of the built-in rules -/

open Builtin

lemma reads_blanks : Reads blanks (Run Unicode.isBlank) := reads_plus .blank true

lemma reads_optionalBlanks : Reads optionalBlanks (All Unicode.isBlank) := reads_star .blank true

lemma reads_word : Reads word (Run Unicode.isWord) := reads_plus .word true

lemma reads_anyExcept (members : List Char) :
    Reads (anyExcept members) (All fun c => !members.contains c) :=
  reads_star (.except members) true

/-- A class that lacks one character. -/
lemma reads_anyExcept_singleton (d : Char) : Reads (anyExcept [d]) (All (· != d)) :=
  (reads_anyExcept [d]).congr fun w => by simp [All]

/-! ## Searching for an expression that reads words -/

section Search

variable {r : PlainRegex} {L : List Char → Prop} (h : Reads r L)
include h

/-- An expression matches where one of its words stands. -/
lemma Reads.exists_match_iff (p : Cursor) :
    (∃ stop, Matches r p stop) ↔ ∃ w after, p.rest = w ++ after ∧ L w := by
  constructor
  · intro hw
    obtain ⟨stop, hstop⟩ := hw
    obtain ⟨w, after, hrest, -, hw⟩ := (h p stop).mp hstop
    exact ⟨w, after, hrest, hw⟩
  · intro hw
    obtain ⟨w, after, hrest, hw⟩ := hw
    exact ⟨p.skip w, (h p _).mpr ⟨w, after, hrest, rfl, hw⟩⟩

/-- The leftmost match starts at the least offset where a word of the expression stands. -/
theorem Reads.find?_least (text : List Char) :
    IsLeastOffset (((r.find? text).map (·.start)).map (·.offset))
      (offsetsWhere (fun rest => ∃ w after, rest = w ++ after ∧ L w) text) :=
  ((find?_isFirst r text).congr fun p _ => h.exists_match_iff p).least

/-- An expression occurs in a text if one of its words does. -/
theorem Reads.occursIn_iff (text : List Char) :
    r.occursIn text = true ↔ ∃ w, L w ∧ w <:+: text := by
  rw [Pattern.occursIn_iff]
  simp only [h.exists_match_iff]
  constructor
  · intro hw
    obtain ⟨p, hp, w, after, hrest, hw⟩ := hw
    obtain ⟨before, rest, rfl, rfl⟩ := mem_places.mp hp
    rw [rest_between] at hrest
    exact ⟨w, hw, before, after, by simp [hrest]⟩
  · intro hw
    obtain ⟨w, hw, before, after, rfl⟩ := hw
    refine ⟨between before (w ++ after), mem_places.mpr ⟨before, w ++ after, by simp, rfl⟩, ?_⟩
    exact ⟨w, after, by simp, hw⟩

end Search

end Pattern

end SnippetLint
