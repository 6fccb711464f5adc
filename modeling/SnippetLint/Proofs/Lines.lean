import SnippetLint.Builtin
import SnippetLint.Proofs.Resolve
import SnippetLint.Proofs.Search
import SnippetLint.Proofs.Words

/-!
# The line that a rule reports

A rule that reports the line of its first match takes the line of the place that the search has
come to. This file relates that number to the text:

* `firstMatch?_isFirst` says, for both kinds of matchers, that the place found is the first one
  where what the rule looks for occurs;
* `exists_isLine` says that a place with `n` line feeds before it is on the line `n + 1`;
* `Rule.evaluate_firstMatch` is what follows for the line that is reported.
-/

namespace SnippetLint

open Text Cursor

/-! ## What a rule looks for -/

open Pattern

/-- What a rule looks for starts at a place of a text: a match of its pattern, or one of the opening
tags found one after another, with no match of the closing tag on the rest of its line. -/
def Matcher.OccursAt (m : Matcher) (text : List Char) (p : Cursor) : Prop :=
  match m with
  | .pattern r => ∃ stop, Matches r p stop
  | .unclosedTag opening closing => ∃ stop, ⟨p, stop⟩ ∈ opening.findAll text ∧
    ¬ ∃ q ∈ places (firstLine stop.rest), ∃ last, Matches closing q last

/-- What is found starts at the first place where there is what the rule looks for. -/
theorem firstMatch?_isFirst (m : Matcher) (text : List Char) :
    IsFirst (m.OccursAt text) (places text) (m.firstMatch? text) := by
  cases m with
  | pattern r => exact find?_isFirst r text
  | unclosedTag opening closing =>
    have hspans := findAll_iterates opening text
    have haccept : ∀ stop : Cursor, (!closing.occursIn stop.lineRest) = true ↔
        ¬ ∃ q ∈ places (firstLine stop.rest), ∃ last, Matches closing q last := by
      intro stop
      rw [Bool.not_eq_true', ← Bool.not_eq_true, occursIn_iff]
      rfl
    cases hfound : (opening.findAll text).find? fun s => !closing.occursIn s.stop.lineRest with
    | none =>
      rw [Matcher.firstMatch?, hfound]
      intro p _ hp
      obtain ⟨stop, hmem, hclosing⟩ := hp
      exact List.find?_eq_none.mp hfound _ hmem ((haccept stop).mpr hclosing)
    | some s =>
      rw [Matcher.firstMatch?, hfound]
      obtain ⟨hs, earlier, later, hall, hearlier⟩ := List.find?_eq_some_iff_append.mp hfound
      have hmem : s ∈ opening.findAll text := by simp [hall]
      refine IsFirst.of_le (hspans.sound s hmem).1 ⟨s.stop, hmem, (haccept _).mp hs⟩ ?_
      intro q _ hq
      obtain ⟨stop, hmem', hclosing⟩ := hq
      -- A match before `s` was not accepted, and one after it starts behind it.
      have hpair := hspans.ascending
      rw [hall, List.pairwise_append, List.pairwise_cons] at hpair
      rw [hall, List.mem_append, List.mem_cons] at hmem'
      obtain hbefore | rfl | hafter := hmem'
      · have := hearlier _ hbefore
        rw [(haccept stop).mpr hclosing] at this
        cases this
      · exact le_rfl
      · exact (hpair.2.1.1 _ hafter).1.le

/-! ## The lines of a text -/

/-- `line` is the `n`-th line of a text, with `above` before it and `below` after it. A line feed
stands between two lines and nowhere else. -/
structure IsLine (text : List Char) (n : Nat) (above line below : List Char) : Prop where
  parts : text = above ++ (line ++ below)
  number : n = above.count '\n' + 1
  starts : above = [] ∨ above.getLast? = some '\n'
  ends : below = [] ∨ below.head? = some '\n'
  single : '\n' ∉ line

lemma Text.length_splitAt (separator : Char) (s : List Char) :
    (splitAt separator s).length = s.count separator + 1 := by
  induction s with
  | nil => rfl
  | cons c s ih =>
    obtain ⟨part, parts, hparts⟩ := List.exists_cons_of_ne_nil (splitAt_ne_nil separator s)
    rw [hparts] at ih
    rw [splitAt, hparts, List.count_cons]
    by_cases hc : c = separator
    · simp [hc, ← ih]
    · simp [hc, ← ih]

/-- The `n`-th line is the `n`-th of the parts between line feeds. -/
lemma IsLine.getElem?_splitAt {text above line below : List Char} {n : Nat}
    (h : IsLine text n above line below) : (splitAt '\n' text)[n - 1]? = some line := by
  have hline : (splitAt '\n' (line ++ below))[0]? = some line := by
    obtain rfl | hbelow := h.ends
    · rw [List.append_nil, splitAt_of_notMem h.single]
      rfl
    · obtain ⟨below', rfl⟩ := List.head?_eq_some_iff.mp hbelow
      rw [splitAt_append_cons, splitAt_of_notMem h.single]
      rfl
  rw [h.parts, h.number, Nat.add_sub_cancel]
  obtain rfl | habove := h.starts
  · exact hline
  · obtain ⟨above', rfl⟩ := List.getLast?_eq_some_iff.mp habove
    -- The last line feed above ends a line, so the lines there are as many as the line feeds.
    have hlength := length_splitAt '\n' above'
    rw [List.append_assoc, List.singleton_append, splitAt_append_cons, List.count_append,
      List.count_singleton_self, ← hlength, List.getElem?_append_right le_rfl, Nat.sub_self]
    exact hline

/-- A text goes on to the end of its first line. -/
lemma exists_lineEnd (s : List Char) :
    ∃ line below, s = line ++ below ∧ '\n' ∉ line ∧ (below = [] ∨ below.head? = some '\n') := by
  by_cases h : '\n' ∈ s
  · obtain ⟨line, below, rfl, hline⟩ := List.eq_append_cons_of_mem h
    exact ⟨line, '\n' :: below, rfl, hline, .inr rfl⟩
  · exact ⟨s, [], (List.append_nil s).symm, h, .inl rfl⟩

/-- A text goes back to the start of its last line. -/
lemma exists_lineStart (s : List Char) :
    ∃ above line, s = above ++ line ∧ '\n' ∉ line ∧
      (above = [] ∨ above.getLast? = some '\n') := by
  obtain ⟨line, below, hs, hline, hbelow⟩ := exists_lineEnd s.reverse
  refine ⟨below.reverse, line.reverse, ?_, by simpa using hline, by simpa using hbelow⟩
  rw [← List.reverse_append, ← hs, List.reverse_reverse]

/-- Every place is on a line, possibly at one of its ends. -/
lemma exists_isLine (before rest : List Char) :
    ∃ above line below, IsLine (before ++ rest) (before.count '\n' + 1) above line below ∧
      utf8Length above ≤ utf8Length before ∧
      utf8Length before ≤ utf8Length above + utf8Length line := by
  obtain ⟨above, front, rfl, hfront, habove⟩ := exists_lineStart before
  obtain ⟨back, below, rfl, hback, hbelow⟩ := exists_lineEnd rest
  have hnumber : (above ++ front).count '\n' = above.count '\n' := by
    rw [List.count_append, List.count_eq_zero.mpr hfront, Nat.add_zero]
  refine ⟨above, front ++ back, below, ⟨?_, by rw [hnumber], habove, hbelow, ?_⟩, ?_, ?_⟩
  · simp only [List.append_assoc]
  · simp [hfront, hback]
  · simp
  · simp only [utf8Length_append]
    omega

/-! ## The line that is reported -/

/-- Line `n` is the one where what a rule looks for starts first: at a byte offset between two
characters, within the line or at one of its ends. -/
structure Matcher.FirstOnLine (m : Matcher) (code : String) (n offset : Nat) : Prop where
  found : (m.firstMatch? code.toList).map (·.offset) = some offset
  occurs : ∃ before rest, code.toList = before ++ rest ∧ offset = utf8Length before ∧
    n = before.count '\n' + 1 ∧ m.OccursAt code.toList (between before rest)
  boundary : (⟨offset⟩ : String.Pos.Raw).IsValid code
  range : 1 ≤ n ∧ n ≤ 1 + code.toList.count '\n'
  within : ∃ above line below, IsLine code.toList n above line below ∧
    (splitAt '\n' code.toList)[n - 1]? = some line ∧
    utf8Length above ≤ offset ∧ offset ≤ utf8Length above + utf8Length line
  first : ∀ before rest, code.toList = before ++ rest →
    m.OccursAt code.toList (between before rest) → n ≤ before.count '\n' + 1

lemma utf8ByteSize_ofList (s : List Char) : (String.ofList s).utf8ByteSize = utf8Length s := by
  induction s with
  | nil => rfl
  | cons c s ih =>
    rw [String.ofList_cons, String.utf8ByteSize_append, String.utf8ByteSize_singleton, ih,
      utf8Length_cons]

/-- Where a text falls into two parts, a string can be cut. -/
lemma isValid_utf8Length {code : String} {before rest : List Char}
    (h : code.toList = before ++ rest) :
    (⟨utf8Length before⟩ : String.Pos.Raw).IsValid code := by
  rw [String.Pos.Raw.isValid_iff_exists_append]
  refine ⟨.ofList before, .ofList rest, ?_, ?_⟩
  · rw [← String.ofList_append, ← h, String.ofList_toList]
  · rw [← utf8ByteSize_ofList]
    rfl

/-- What a search finds first is on the line of the place where it starts. -/
lemma Matcher.firstOnLine {m : Matcher} {code : String} {p : Cursor}
    (h : m.firstMatch? code.toList = some p) : m.FirstOnLine code p.line p.offset := by
  have hp := firstMatch?_mem_places h
  have hfirst := firstMatch?_isFirst m code.toList
  rw [h] at hfirst
  obtain ⟨before, rest, htext, rfl⟩ := mem_places.mp hp
  have hoccurs : m.OccursAt code.toList (between before rest) := by
    obtain ⟨-, -, -, hoccurs, -⟩ := hfirst
    exact hoccurs
  rw [line_between, offset_between]
  -- From here on the place is that between `before` and `rest`.
  constructor
  case found => rw [h, Option.map_some, offset_between]
  case occurs => exact ⟨before, rest, htext, rfl, rfl, hoccurs⟩
  case boundary => exact isValid_utf8Length htext
  case range =>
    rw [htext, List.count_append]
    omega
  case within =>
    obtain ⟨above, line, below, hline, hle⟩ := exists_isLine before rest
    rw [← htext] at hline
    exact ⟨above, line, below, hline, hline.getElem?_splitAt, hle⟩
  case first =>
    intro before' rest' htext' hoccurs'
    have hq : between before' rest' ∈ places code.toList :=
      mem_places.mpr ⟨before', rest', htext', rfl⟩
    have hle := line_le_of_offset_le hp hq (hfirst.offset_le hq hoccurs')
    rwa [line_between, line_between] at hle

/-- A rule that reports the line of its first match reports one exactly if what it looks for occurs,
and then the first line where it does. -/
theorem Rule.evaluate_firstMatch {r : Rule} (h : r.line = .firstMatch) (code : String) :
    ((∃ n, r.evaluate code = some n) ↔
      ∃ before rest, code.toList = before ++ rest ∧
        r.matcher.OccursAt code.toList (between before rest)) ∧
    ∀ n, r.evaluate code = some n → ∃ offset, r.matcher.FirstOnLine code n offset := by
  have hevaluate : r.evaluate code = (r.matcher.firstMatch? code.toList).map (·.line) := by
    rw [evaluate, h]
  rw [hevaluate]
  constructor
  · rw [← Option.isSome_iff_exists, Option.isSome_map,
      (firstMatch?_isFirst r.matcher code.toList).isSome_iff]
    constructor
    · intro hp
      obtain ⟨p, hp, hoccurs⟩ := hp
      obtain ⟨before, rest, htext, rfl⟩ := mem_places.mp hp
      exact ⟨before, rest, htext, hoccurs⟩
    · intro hp
      obtain ⟨before, rest, htext, hoccurs⟩ := hp
      exact ⟨_, mem_places.mpr ⟨before, rest, htext, rfl⟩, hoccurs⟩
  · intro n hn
    obtain ⟨p, hp, rfl⟩ := Option.map_eq_some_iff.mp hn
    exact ⟨p.offset, Matcher.firstOnLine hp⟩

/-- Neither a character of several bytes nor a carriage return nor a line separator counts. -/
theorem Rule.evaluate_firstMatch_lineSeparator :
    (∃ offset, (Matcher.pattern (Regex.text "TODO")).FirstOnLine
      "é\r\u2028// x\r\n\u0085TODO\nTODO" 2 offset) ∧
    ∃ offset, (Matcher.unclosedTag Builtin.openDiv Builtin.closeDiv).FirstOnLine
      "<div></div>\n\u2028<div>\r\n</div>" 2 offset :=
  let todo : Rule := ⟨"todo", "Unfinished work marker", .warning, .firstMatch,
    .pattern (Regex.text "TODO")⟩
  let div : Rule := ⟨"div", "Unclosed tag", .warning, .firstMatch,
    .unclosedTag Builtin.openDiv Builtin.closeDiv⟩
  ⟨(evaluate_firstMatch (r := todo) rfl _).2 2 (by decide +kernel),
    (evaluate_firstMatch (r := div) rfl _).2 2 (by decide +kernel)⟩

end SnippetLint
