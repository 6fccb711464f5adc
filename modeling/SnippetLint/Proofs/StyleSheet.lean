import SnippetLint.Proofs.Words

/-!
# Declarations in style sheets

What the two rules for style sheets look for, said without a search. Both expressions can read the
same text in many ways, and none of them matters:

* `[^;{}]+:[^;{}]+` takes a colon with as much around it as it likes, colons included. A match is
  there as soon as one colon has a character before it and one after it, none of them a sign that
  ends a declaration. The leftmost match has all of the characters before the colon that are no
  such sign, so it begins where a maximal run does (`declarationStarts`).
* `text-shadow\s*:\s*[^;]*[^;]` takes a property name with its colon and any character after it but
  a semicolon (`ShadowAt`); blanks are such characters as well.

`cssRules_least` says this of the rules of the catalogue. Nothing after the character that follows
the colon is looked at, so neither rule can tell whether a declaration has its semicolon.
-/

namespace SnippetLint

open Text Cursor Pattern Regex Builtin

/-! ## Maximal runs -/

namespace Text

/-- A run of characters of a class that cannot be made longer within the text that it stands in:
what is before it does not end, and what is after it does not begin, with such a character. -/
structure MaximalRun (p : Char → Bool) (before run after : List Char) : Prop where
  run : Run p run
  left : before.getLast?.any p = false
  right : after.head?.any p = false

/-- The characters of a class at the front of a text. -/
lemma exists_run_front (p : Char → Bool) (s : List Char) :
    ∃ run after, s = run ++ after ∧ All p run ∧ after.head?.any p = false := by
  refine ⟨s.takeWhile p, s.dropWhile p, List.takeWhile_append_dropWhile.symm, ?_,
    any_head?_dropWhile p s⟩
  exact List.all_eq_true.mp List.all_takeWhile

/-- The characters of a class at the end of a text. -/
lemma exists_run_end (p : Char → Bool) (s : List Char) :
    ∃ before run, s = before ++ run ∧ All p run ∧ before.getLast?.any p = false := by
  obtain ⟨run, after, hs, hrun, hafter⟩ := exists_run_front p s.reverse
  refine ⟨after.reverse, run.reverse, ?_, ?_, ?_⟩
  · rw [← List.reverse_append, ← hs, List.reverse_reverse]
  · exact fun c hc => hrun c (List.mem_reverse.mp hc)
  · rwa [List.getLast?_reverse]

/-- Every run is part of a maximal one. -/
lemma Run.exists_maximalRun {p : Char → Bool} {run : List Char} (hrun : Run p run)
    (before after : List Char) :
    ∃ before' left right after', before = before' ++ left ∧ after = right ++ after' ∧
      MaximalRun p before' (left ++ (run ++ right)) after' := by
  obtain ⟨hne, hall⟩ := hrun
  obtain ⟨before', left, hbefore, hleft, hbefore'⟩ := exists_run_end p before
  obtain ⟨right, after', hafter, hright, hafter'⟩ := exists_run_front p after
  refine ⟨before', left, right, after', hbefore, hafter, ⟨?_, ?_⟩, hbefore', hafter'⟩
  · simp [hne]
  · intro c hc
    rw [List.mem_append, List.mem_append] at hc
    obtain hc | hc | hc := hc
    · exact hleft c hc
    · exact hall c hc
    · exact hright c hc

end Text

/-! ## Colons in a style sheet -/

/-- The signs that end a declaration or a block. -/
def sheetSigns : List Char := [';', '\x7b', '\x7d']

/-- Whether a character is none of the signs that end a declaration or a block. -/
def isPlain (c : Char) : Bool := !sheetSigns.contains c

/-- Some colon has a character before it and a character after it, and both are plain. -/
def ColonBetween (text : List Char) : Prop :=
  ∃ before c d after, text = before ++ c :: ':' :: d :: after ∧ isPlain c = true ∧ isPlain d = true

/-- A colon is in a text, neither at its front nor at its end. -/
def InnerColon (run : List Char) : Prop := ∃ u v, run = u ++ ':' :: v ∧ u ≠ [] ∧ v ≠ []

/-- The byte offsets at which a maximal run of plain characters starts that has a colon inside. -/
def declarationStarts (text : List Char) : Set Nat :=
  {i | ∃ before run after, text = before ++ (run ++ after) ∧ i = utf8Length before ∧
    MaximalRun isPlain before run after ∧ InnerColon run}

/-- The words of `[^;{}]+:[^;{}]+`. -/
def declaration : List (List Char → Prop) := [Run isPlain, (· = [':']), Run isPlain]

lemma reads_cssDeclaration : Reads cssDeclaration (Parts declaration) :=
  (reads_plus _ true).cons ((reads_text _).cons ((reads_plus _ true).cons reads_nil))

lemma parts_declaration {w : List Char} : Parts declaration w ↔ Run isPlain w ∧ InnerColon w := by
  constructor
  · intro h
    obtain ⟨u, _, rfl, ⟨hu, hplain⟩, _, v, rfl, rfl, hv⟩ := h
    obtain ⟨hne, hv⟩ := parts_singleton.mp hv
    refine ⟨⟨by simp, ?_⟩, u, v, rfl, hu, hne⟩
    -- The colon itself is plain, which makes one run of all three parts.
    intro c hc
    rw [List.mem_append, List.mem_append, List.mem_singleton] at hc
    obtain hc | rfl | hc := hc
    · exact hplain c hc
    · rfl
    · exact hv c hc
  · intro h
    obtain ⟨⟨-, hplain⟩, u, v, rfl, hu, hv⟩ := h
    refine ⟨u, _, rfl, ⟨hu, fun c hc => hplain c (by simp [hc])⟩, _, v, rfl, rfl, ?_⟩
    exact parts_singleton.mpr ⟨hv, fun c hc => hplain c (by simp [hc])⟩

/-- What is around a colon on the inside is there in a longer text as well. -/
lemma InnerColon.append {run : List Char} (h : InnerColon run) (left right : List Char) :
    InnerColon (left ++ (run ++ right)) := by
  obtain ⟨u, v, rfl, hu, hv⟩ := h
  exact ⟨left ++ u, v ++ right, by simp, by simp [hu], by simp [hv]⟩

/-- The words of a declaration can be found in a text exactly if one of its colons has a plain
character on either side. -/
lemma colonBetween_iff {text : List Char} :
    ColonBetween text ↔
      (offsetsWhere (fun s => ∃ w after, s = w ++ after ∧ Parts declaration w) text).Nonempty := by
  simp only [parts_declaration]
  constructor
  · intro h
    obtain ⟨before, c, d, after, rfl, hc, hd⟩ := h
    refine ⟨_, before, _, rfl, rfl, [c, ':', d], after, rfl, ⟨by simp, ?_⟩, [c], [d], by simp⟩
    have hcolon : isPlain ':' = true := rfl
    simp [All, hc, hd, hcolon]
  · intro h
    obtain ⟨_, before, _, rfl, rfl, _, after, rfl, ⟨-, hplain⟩, u, v, rfl, hu, hv⟩ := h
    obtain ⟨u, c, rfl⟩ := u.eq_nil_or_concat.resolve_left hu
    rw [List.concat_eq_append] at hplain ⊢
    obtain ⟨d, v, rfl⟩ := List.exists_cons_of_ne_nil hv
    exact ⟨before ++ u, c, d, v ++ after, by simp, hplain c (by simp), hplain d (by simp)⟩

/-- The leftmost of all words begins with a maximal run: what could be put before a word makes a
word again, and one that starts earlier. -/
lemma declarationStarts_least {found : Option Nat} {text : List Char}
    (h : IsLeastOffset found
      (offsetsWhere (fun s => ∃ w after, s = w ++ after ∧ Parts declaration w) text)) :
    IsLeastOffset found (declarationStarts text) := by
  refine h.of_subset ?_ ?_
  · intro i hi
    obtain ⟨before, run, after, rfl, rfl, hrun, hcolon⟩ := hi
    exact ⟨before, _, rfl, rfl, run, after, rfl, parts_declaration.mpr ⟨hrun.run, hcolon⟩⟩
  · intro i hi
    obtain ⟨before, _, rfl, rfl, w, after, rfl, hw⟩ := hi
    obtain ⟨hplain, hcolon⟩ := parts_declaration.mp hw
    obtain ⟨before', left, right, after', rfl, rfl, hrun⟩ := hplain.exists_maximalRun before after
    refine ⟨utf8Length before', ⟨before', _, after', by simp, rfl, hrun, hcolon.append _ _⟩, ?_⟩
    rw [utf8Length_append]
    omega

/-! ## Shadows of texts -/

/-- The name of the property and its colon. -/
def shadowHead : List (List Char → Prop) :=
  [(· = "text-shadow".toList), All Unicode.isBlank, (· = ":".toList)]

/-- The property is at the front of a text, and directly after its colon comes a character other
than a semicolon. -/
def ShadowAt (s : List Char) : Prop :=
  ∃ head value, s = head ++ value ∧ Parts shadowHead head ∧ ∃ c ∈ value.head?, c ≠ ';'

lemma shadowHead_unambiguous : Unambiguous shadowHead :=
  .literal _ (.all (.literal (by decide)) (.literal _ .nil))

/-- The words of `\s*[^;]*[^;]`. -/
def shadowValue : List (List Char → Prop) :=
  [All Unicode.isBlank, All (· != ';'), fun w => ∃ c, w = [c] ∧ c ≠ ';']

lemma reads_cssTextShadow : Reads cssTextShadow (Parts (shadowHead ++ shadowValue)) := by
  have hlast : Reads (oneOf (.except [';'])) fun w => ∃ c, w = [c] ∧ c ≠ ';' :=
    (reads_oneOf _).congr fun w => by simp [CharSet.except, CharSet.contains]
  exact (reads_text _).cons (reads_optionalBlanks.cons ((reads_text _).cons
    (reads_optionalBlanks.cons ((reads_anyExcept_singleton _).cons (hlast.cons reads_nil)))))

/-- The three parts of a value overlap, but all of them begin with something else than a semicolon,
and the last one alone is good enough. -/
lemma shadowValue_iff (s : List Char) :
    (∃ w after, s = w ++ after ∧ Parts shadowValue w) ↔ ∃ c ∈ s.head?, c ≠ ';' := by
  constructor
  · intro h
    obtain ⟨_, after, rfl, blanks, _, rfl, hblanks, u, _, rfl, hu, hlast⟩ := h
    obtain ⟨d, rfl, hd⟩ := parts_singleton.mp hlast
    -- The first character belongs to the first part that is not empty.
    cases blanks with
    | cons c blanks =>
      refine ⟨c, rfl, ?_⟩
      rintro rfl
      exact absurd (hblanks ';' List.mem_cons_self) (by decide)
    | nil =>
      cases u with
      | cons c u => exact ⟨c, rfl, by simpa using hu c List.mem_cons_self⟩
      | nil => exact ⟨d, rfl, hd⟩
  · intro h
    obtain ⟨c, hc, hne⟩ := h
    obtain ⟨after, rfl⟩ := List.head?_eq_some_iff.mp hc
    refine ⟨[c], after, rfl, [], [c], rfl, by simp [All], [], [c], rfl, by simp [All], ?_⟩
    exact parts_singleton.mpr ⟨c, rfl, hne⟩

/-- A match of the rule is the property with a character other than a semicolon after its colon. -/
lemma shadowAt_iff (s : List Char) :
    (∃ w after, s = w ++ after ∧ Parts (shadowHead ++ shadowValue) w) ↔ ShadowAt s := by
  constructor
  · intro h
    obtain ⟨w, after, rfl, hw⟩ := h
    obtain ⟨head, value, rfl, hhead, hvalue⟩ := parts_append.mp hw
    exact ⟨head, value ++ after, List.append_assoc _ _ _, hhead,
      (shadowValue_iff _).mp ⟨value, after, rfl, hvalue⟩⟩
  · intro h
    obtain ⟨head, rest, rfl, hhead, hrest⟩ := h
    obtain ⟨value, after, rfl, hvalue⟩ := (shadowValue_iff rest).mpr hrest
    exact ⟨head ++ value, after, (List.append_assoc _ _ _).symm,
      parts_append.mpr ⟨head, value, rfl, hhead, hvalue⟩⟩

/-! ## The two rules -/

/-- The rules for style sheets look at a colon and the characters next to it. The first one finds
the first maximal run of plain characters with a colon inside, and finds one exactly if some colon
has a plain character on either side. The second one finds the first `text-shadow` whose colon is
followed by any character but a semicolon. What comes after that character never matters. -/
theorem cssRules_least :
    ∃ semicolon shadow : Rule, Catalogue.builtin.rulesFor .css = [semicolon, shadow] ∧
      semicolon.id = "missing-semicolon" ∧ shadow.id = "text-shadow" ∧
      (∀ text : List Char,
        ((semicolon.matcher.firstMatch? text).isSome ↔ ColonBetween text) ∧
        IsLeastOffset ((semicolon.matcher.firstMatch? text).map (·.offset))
          (declarationStarts text) ∧
        ((shadow.matcher.firstMatch? text).isSome ↔ ∃ s, ShadowAt s ∧ s <:+ text) ∧
        IsLeastOffset ((shadow.matcher.firstMatch? text).map (·.offset))
          (offsetsWhere ShadowAt text)) ∧
      (∀ before after : List Char, ∀ c d : Char, isPlain c = true → isPlain d = true →
        (semicolon.matcher.firstMatch? (before ++ c :: ':' :: d :: after)).isSome) ∧
      ∀ before head value : List Char, Parts shadowHead head →
        (utf8Length before ∈ offsetsWhere ShadowAt (before ++ (head ++ value)) ↔
          ∃ c ∈ value.head?, c ≠ ';') := by
  have hsemicolon : ∀ text : List Char,
      (((Matcher.pattern cssDeclaration).firstMatch? text).isSome ↔ ColonBetween text) ∧
      IsLeastOffset (((Matcher.pattern cssDeclaration).firstMatch? text).map (·.offset))
        (declarationStarts text) := by
    intro text
    have hleast := reads_cssDeclaration.find?_least text
    refine ⟨?_, declarationStarts_least hleast⟩
    rw [colonBetween_iff, ← hleast.isSome_iff, Option.isSome_map]
    rfl
  have hshadow : ∀ text : List Char,
      (((Matcher.pattern cssTextShadow).firstMatch? text).isSome ↔ ∃ s, ShadowAt s ∧ s <:+ text) ∧
      IsLeastOffset (((Matcher.pattern cssTextShadow).firstMatch? text).map (·.offset))
        (offsetsWhere ShadowAt text) := by
    intro text
    have hleast := reads_cssTextShadow.find?_least text
    rw [funext fun s => propext (shadowAt_iff s)] at hleast
    refine ⟨?_, hleast⟩
    have hsome := hleast.isSome_iff
    rw [Option.isSome_map] at hsome
    refine hsome.trans ⟨?_, ?_⟩
    · intro h
      obtain ⟨_, before, s, rfl, -, hs⟩ := h
      exact ⟨s, hs, before, rfl⟩
    · intro h
      obtain ⟨s, hs, before, rfl⟩ := h
      exact ⟨_, before, s, rfl, rfl, hs⟩
  refine ⟨_, _, rfl, rfl, rfl, ?_, ?_, ?_⟩
  · intro text
    exact ⟨(hsemicolon text).1, (hsemicolon text).2, hshadow text⟩
  · intro before after c d hc hd
    exact (hsemicolon _).1.mpr ⟨before, c, d, after, rfl, hc, hd⟩
  · intro before head value hhead
    exact mem_offsetsWhere_of_unambiguous shadowHead_unambiguous hhead before value

/-- A line feed after the colon is as good as any value. -/
theorem shadowAt_lineFeed :
    Parts shadowHead "text-shadow :".toList ∧
      utf8Length "/* é */".toList ∈ offsetsWhere ShadowAt
        ("/* é */".toList ++ ("text-shadow :".toList ++ "\n;".toList)) := by
  have hhead : Parts shadowHead "text-shadow :".toList :=
    ⟨_, _, rfl, rfl, " ".toList, _, rfl, by decide, _, [], rfl, rfl, rfl⟩
  obtain ⟨_, _, -, -, -, -, -, hshadow⟩ := cssRules_least
  exact ⟨hhead, (hshadow _ _ _ hhead).mpr ⟨'\n', rfl, by decide⟩⟩

end SnippetLint
