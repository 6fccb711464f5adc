import SnippetLint.Proofs.Words

/-!
# Opening tags without a closing tag

The rules for tags look at one opening tag after another, each after the end of the one before, so
a tag that starts within another one is never looked at. It is still right to say that the first
opening tag without a closing tag on its line is found: a tag ends with the next `>`, so a tag that
starts within another one ends together with it, and what follows it on the line is the same.

`UnclosedAt` says what it means for such a tag to be at the front of a text, without any reference
to a search; `unclosedTag_least` is the statement about both rules, and `htmlRules_least` what it
says about the rules of the catalogue.
-/

namespace SnippetLint

open Text Cursor Pattern Builtin

/-! ## Tags at the front of a text -/

/-- What follows the first `>` of a text. -/
def afterTag (s : List Char) : List Char := (s.dropWhile (· != '>')).tail

/-- A tag is opened at the front of a text, has its `>` there, and no closing tag follows that on
the same line. -/
structure UnclosedAt (opens closes : List Char → Prop) (s : List Char) : Prop where
  opens : opens s
  ends : '>' ∈ s
  unclosed : ¬ ∃ tag, closes tag ∧ tag <:+: firstLine (afterTag s)

/-- The text begins with `<div`. -/
def OpensDiv (s : List Char) : Prop := "<div".toList <+: s

/-- The text begins with `<` and a word character. -/
def OpensTag (s : List Char) : Prop := ∃ c rest, s = '<' :: c :: rest ∧ Unicode.isWord c = true

/-- The closing tag `</div>`. -/
def ClosesDiv (tag : List Char) : Prop := tag = "</div>".toList

/-- A closing tag with a name of word characters. -/
def ClosesTag (tag : List Char) : Prop :=
  ∃ name, Run Unicode.isWord name ∧ tag = "</".toList ++ name ++ ">".toList

/-- What stands before the first `>` has no part in what follows it. -/
lemma afterTag_append {u : List Char} (hu : '>' ∉ u) (s : List Char) :
    afterTag (u ++ s) = afterTag s := by
  have hdrop : (u ++ s).dropWhile (· != '>') = s.dropWhile (· != '>') := by
    apply List.dropWhile_append_of_pos
    exact all_ne_iff.mpr hu
  rw [afterTag, hdrop, afterTag]

lemma afterTag_cons (s : List Char) : afterTag ('>' :: s) = s := rfl

/-! ## Tags that overlap -/

/-- A tag ends with its first `>`. -/
def EndsTag (tag : List Char) : Prop := ∃ inside, tag = inside ++ ['>'] ∧ '>' ∉ inside

/-- What follows the first `>` of a text that begins with a tag is what follows the tag. -/
lemma EndsTag.afterTag_append {tag : List Char} (h : EndsTag tag) (after : List Char) :
    afterTag (tag ++ after) = after := by
  obtain ⟨inside, rfl, hinside⟩ := h
  rw [List.append_assoc, SnippetLint.afterTag_append hinside, List.singleton_append, afterTag_cons]

lemma EndsTag.utf8Length_pos {tag : List Char} (h : EndsTag tag) : 0 < utf8Length tag := by
  obtain ⟨inside, rfl, -⟩ := h
  have hsize := Char.utf8Size_pos '>'
  simp only [utf8Length_append, utf8Length_cons]
  omega

/-- What stands before a place within a tag has no `>`. -/
lemma EndsTag.notMem_of_within {tag after u rest : List Char} (h : EndsTag tag)
    (heq : tag ++ after = u ++ rest) (hwithin : utf8Length u < utf8Length tag) : '>' ∉ u := by
  obtain ⟨inside, rfl, hinside⟩ := h
  rw [List.append_assoc] at heq
  -- Otherwise `u` would reach up to the end of the tag.
  rcases List.append_eq_append_iff.mp heq with ⟨v, rfl, hv⟩ | ⟨v, rfl, -⟩
  · cases v with
    | nil => simpa using hinside
    | cons c v =>
      obtain ⟨rfl, -⟩ := List.cons.inj hv
      simp only [utf8Length_append, utf8Length_cons, utf8Length_nil] at hwithin
      omega
  · exact fun hu => hinside (List.mem_append_left v hu)

variable {opening closing : PlainRegex} {L closes opens : List Char → Prop}

/-- Tags that overlap end together. -/
lemma sharesEnds_of_endsTag (hopening : Reads opening L) (hL : ∀ w, L w → EndsTag w)
    (text : List Char) : SharesEnds opening text := by
  have hafter : ∀ {p stop : Cursor}, Matches opening p stop → stop.rest = afterTag p.rest := by
    intro p stop hstop
    obtain ⟨w, after, hrest, rfl, hw⟩ := (hopening _ _).mp hstop
    rw [rest_skip hrest, hrest, (hL w hw).afterTag_append]
  constructor
  · intro p _ stop hstop
    obtain ⟨w, after, hrest, rfl, hw⟩ := (hopening _ _).mp hstop
    have hpos := (hL w hw).utf8Length_pos
    rw [offset_skip]
    omega
  · intro p hp q hq stop stop' hstop hstop' hle hwithin
    obtain ⟨u, hu, hoffset⟩ := exists_rest_eq_append hp hq hle
    obtain ⟨w, after, hrest, rfl, hw⟩ := (hopening _ _).mp hstop
    rw [offset_skip] at hwithin
    -- The later tag starts within the earlier one, so in front of its only `>`.
    have hnot : '>' ∉ u := (hL w hw).notMem_of_within (hrest.symm.trans hu) (by omega)
    rw [hafter hstop, hafter hstop', hu, SnippetLint.afterTag_append hnot]

/-- The first opening tag without a closing tag on its line is found, among all opening tags. -/
theorem unclosedTag_least (hopening : Reads opening L) (hL : ∀ w, L w → EndsTag w)
    (hopens : ∀ s, (opens s ∧ '>' ∈ s) ↔ ∃ w after, s = w ++ after ∧ L w)
    (hclosing : Reads closing closes) (text : List Char) :
    IsLeastOffset (((Matcher.unclosedTag opening closing).firstMatch? text).map (·.offset))
      (offsetsWhere (UnclosedAt opens closes) text) := by
  have hfirst := unclosedTag_isFirst closing (sharesEnds_of_endsTag hopening hL text)
  refine (hfirst.congr fun p _ => ?_).least
  have hunclosed : ∀ stop : Cursor, closing.occursIn stop.lineRest = false ↔
      ¬ ∃ tag, closes tag ∧ tag <:+: firstLine stop.rest := by
    intro stop
    rw [← Bool.not_eq_true, hclosing.occursIn_iff]
    rfl
  constructor
  · intro h
    obtain ⟨stop, hstop, hline⟩ := h
    obtain ⟨w, after, hrest, rfl, hw⟩ := (hopening _ _).mp hstop
    obtain ⟨hs, hmem⟩ := (hopens p.rest).mpr ⟨w, after, hrest, hw⟩
    refine ⟨hs, hmem, ?_⟩
    rw [hunclosed, rest_skip hrest] at hline
    rwa [hrest, (hL w hw).afterTag_append]
  · intro h
    obtain ⟨hs, hmem, hline⟩ := h
    obtain ⟨w, after, hrest, hw⟩ := (hopens p.rest).mp ⟨hs, hmem⟩
    refine ⟨p.skip w, (hopening _ _).mpr ⟨w, after, hrest, rfl, hw⟩, ?_⟩
    rw [hunclosed, rest_skip hrest]
    rwa [hrest, (hL w hw).afterTag_append] at hline

/-! ## The two rules -/

/-- The words of `<div[^>]*>`. -/
def divTag : List Char → Prop := Parts [(· = "<div".toList), All (· != '>'), (· = ">".toList)]

/-- The words of `<\w+[^>]*>`. -/
def anyTag : List Char → Prop :=
  Parts [(· = "<".toList), Run Unicode.isWord, All (· != '>'), (· = ">".toList)]

/-- The tags that the rule for `div` looks at: `<div` and whatever stands before the next `>`. -/
lemma divTag_iff {w : List Char} :
    divTag w ↔ ∃ inside, w = "<div".toList ++ (inside ++ ['>']) ∧ '>' ∉ inside := by
  rw [divTag, parts_literal_cons]
  constructor
  · intro h
    obtain ⟨_, rfl, inside, _, rfl, hinside, hend⟩ := h
    rw [parts_singleton.mp hend]
    exact ⟨inside, rfl, all_ne_iff.mp hinside⟩
  · intro h
    obtain ⟨inside, rfl, hinside⟩ := h
    exact ⟨_, rfl, inside, _, rfl, all_ne_iff.mpr hinside, parts_singleton.mpr rfl⟩

/-- The tags that the rule for all tags looks at: a name, and whatever stands before the next `>`.
-/
lemma anyTag_iff {w : List Char} :
    anyTag w ↔ ∃ name inside, w = '<' :: (name ++ (inside ++ ['>'])) ∧
      Run Unicode.isWord name ∧ '>' ∉ inside := by
  rw [anyTag, parts_literal_cons]
  constructor
  · intro h
    obtain ⟨_, rfl, name, _, rfl, hname, inside, _, rfl, hinside, hend⟩ := h
    rw [parts_singleton.mp hend]
    exact ⟨name, inside, rfl, hname, all_ne_iff.mp hinside⟩
  · intro h
    obtain ⟨name, inside, rfl, hname, hinside⟩ := h
    exact ⟨_, rfl, name, _, rfl, hname, inside, _, rfl, all_ne_iff.mpr hinside,
      parts_singleton.mpr rfl⟩

lemma reads_openDiv : Reads openDiv divTag :=
  (reads_text _).cons ((reads_anyExcept_singleton _).cons ((reads_text _).cons reads_nil))

lemma reads_openTag : Reads openTag anyTag :=
  (reads_text _).cons (reads_word.cons
    ((reads_anyExcept_singleton _).cons ((reads_text _).cons reads_nil)))

lemma reads_closeDiv : Reads closeDiv ClosesDiv := reads_text _

/-- The expression for closing tags matches those with a name of word characters. -/
lemma reads_closeTag : Reads closeTag ClosesTag := by
  have hparts : Reads closeTag
      (Parts [(· = "</".toList), Run Unicode.isWord, (· = ">".toList)]) :=
    (reads_text _).cons (reads_word.cons ((reads_text _).cons reads_nil))
  refine hparts.congr fun w => ?_
  rw [parts_literal_cons]
  constructor
  · intro h
    obtain ⟨_, rfl, name, _, rfl, hname, hend⟩ := h
    rw [parts_singleton.mp hend]
    exact ⟨name, hname, (List.append_assoc _ _ _).symm⟩
  · intro h
    obtain ⟨name, hname, rfl⟩ := h
    exact ⟨_, List.append_assoc _ _ _, name, _, rfl, hname, parts_singleton.mpr rfl⟩

/-- The sign that ends a tag is not part of a name. -/
lemma notMem_of_run_isWord {name : List Char} (hname : Run Unicode.isWord name) : '>' ∉ name := by
  intro hmem
  have hend := hname.2 _ hmem
  revert hend
  decide

/-- A `div` tag ends with its first `>`. -/
lemma endsTag_divTag (w : List Char) (h : divTag w) : EndsTag w := by
  obtain ⟨inside, rfl, hinside⟩ := divTag_iff.mp h
  refine ⟨"<div".toList ++ inside, (List.append_assoc _ _ _).symm, ?_⟩
  rw [List.mem_append, not_or]
  exact ⟨by decide, hinside⟩

lemma endsTag_anyTag (w : List Char) (h : anyTag w) : EndsTag w := by
  obtain ⟨name, inside, rfl, hname, hinside⟩ := anyTag_iff.mp h
  refine ⟨'<' :: (name ++ inside), by simp, ?_⟩
  rw [List.mem_cons, List.mem_append, not_or, not_or]
  exact ⟨by decide, notMem_of_run_isWord hname, hinside⟩

/-- A tag that is open at the front of a text and has its `>` is a word of the expression. -/
lemma opensDiv_iff (s : List Char) :
    (OpensDiv s ∧ '>' ∈ s) ↔ ∃ w after, s = w ++ after ∧ divTag w := by
  constructor
  · intro h
    obtain ⟨⟨rest, rfl⟩, hmem⟩ := h
    have hrest : '>' ∈ rest := (List.mem_append.mp hmem).resolve_left (by decide)
    obtain ⟨inside, after, rfl, hinside⟩ := List.eq_append_cons_of_mem hrest
    exact ⟨"<div".toList ++ (inside ++ ['>']), after, by simp,
      divTag_iff.mpr ⟨inside, rfl, hinside⟩⟩
  · intro h
    obtain ⟨w, after, rfl, hw⟩ := h
    obtain ⟨inside, rfl, -⟩ := divTag_iff.mp hw
    exact ⟨⟨_, (List.append_assoc _ _ _).symm⟩, by simp⟩

/-- A tag that is opened and has its `>` is a whole tag. -/
lemma opensTag_iff (s : List Char) :
    (OpensTag s ∧ '>' ∈ s) ↔ ∃ w after, s = w ++ after ∧ anyTag w := by
  constructor
  · intro h
    obtain ⟨⟨c, rest, rfl, hc⟩, hmem⟩ := h
    -- The first word character is name enough; what else belongs to it counts as inside.
    have hname : Run Unicode.isWord [c] := ⟨by simp, by simpa [All] using hc⟩
    have hrest : '>' ∈ rest := by
      have hne := notMem_of_run_isWord hname
      rw [List.mem_singleton] at hne
      simpa [hne] using hmem
    obtain ⟨inside, after, rfl, hinside⟩ := List.eq_append_cons_of_mem hrest
    exact ⟨'<' :: ([c] ++ (inside ++ ['>'])), after, by simp,
      anyTag_iff.mpr ⟨[c], inside, rfl, hname, hinside⟩⟩
  · intro h
    obtain ⟨w, after, rfl, hw⟩ := h
    obtain ⟨name, inside, rfl, ⟨hne, hname⟩, -⟩ := anyTag_iff.mp hw
    cases name with
    | nil => exact absurd rfl hne
    | cons c name => exact ⟨⟨c, _, rfl, hname c List.mem_cons_self⟩, by simp⟩

/-- The rule for `div` finds the first tag that is not closed on its line. -/
lemma unclosedDiv_least (text : List Char) :
    IsLeastOffset (((Matcher.unclosedTag openDiv closeDiv).firstMatch? text).map (·.offset))
      (offsetsWhere (UnclosedAt OpensDiv ClosesDiv) text) :=
  unclosedTag_least reads_openDiv endsTag_divTag opensDiv_iff reads_closeDiv text

/-- So does the rule for all tags. -/
lemma unclosedAny_least (text : List Char) :
    IsLeastOffset (((Matcher.unclosedTag openTag closeTag).firstMatch? text).map (·.offset))
      (offsetsWhere (UnclosedAt OpensTag ClosesTag) text) :=
  unclosedTag_least reads_openTag endsTag_anyTag opensTag_iff reads_closeTag text

/-- The two rules for tags find the first opening tag without a closing tag on its line, of all
opening tags of a text, and find nothing only if every opening tag has one. -/
theorem htmlRules_least :
    ∃ div tag : Rule, Catalogue.builtin.rulesFor .html = [div, tag] ∧
      div.id = "unclosed-div" ∧ tag.id = "unclosed-tag" ∧
      ∀ text : List Char,
        IsLeastOffset ((div.matcher.firstMatch? text).map (·.offset))
          (offsetsWhere (UnclosedAt OpensDiv ClosesDiv) text) ∧
        IsLeastOffset ((tag.matcher.firstMatch? text).map (·.offset))
          (offsetsWhere (UnclosedAt OpensTag ClosesTag) text) :=
  ⟨_, _, rfl, rfl, rfl, fun text => ⟨unclosedDiv_least text, unclosedAny_least text⟩⟩

end SnippetLint
