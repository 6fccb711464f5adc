import Mathlib.Data.List.Infix
import SnippetLint.Proofs.JsonText
import SnippetLint.Report.Pretty

/-!
# Colors carry no content

A report for readers has the same text with colors and without: what colors add is a sequence in
front of each styled piece and one behind it, and all of it goes away with `Text.withoutSequences`.
This is so for any styled text of which no piece has an escape character of its own
(`StyledText.withoutSequences_render`), and the pieces of a report have none if the texts that are
reported have none (`Report.unescaped_pretty`). Columns are filled up inside of the styled pieces,
so they are as wide with colors as they are without.
-/

namespace SnippetLint

namespace Text

/-! ## Deleting sequences -/

/-- A character that may stand between the bracket and the last letter of a sequence. -/
def isCode (c : Char) : Bool := c.isDigit || c == ';'

/-- What comes after the letter that ends a sequence, if that is what a text begins with. -/
def afterLetter? : List Char → Option (List Char)
  | 'm' :: rest => some rest
  | _ => none

/-- What comes after the sequence at the front of a text, if there is one: an escape character, a
bracket, codes, and the letter. -/
def afterSequence? : List Char → Option (List Char)
  | '\x1b' :: '[' :: rest => afterLetter? (rest.dropWhile isCode)
  | _ => none

/-- The letter that ends a sequence is an `m`. -/
lemma eq_cons_of_afterLetter? {s rest : List Char} (h : afterLetter? s = some rest) :
    s = 'm' :: rest := by
  unfold afterLetter? at h
  split at h
  · rw [Option.some.inj h]
  · cases h

/-- What comes after a sequence is shorter than the text, so deleting sequences ends. -/
lemma length_lt_of_afterSequence? {s rest : List Char} (h : afterSequence? s = some rest) :
    rest.length < s.length := by
  unfold afterSequence? at h
  split at h
  · next codes =>
    have hdrop := (List.dropWhile_suffix isCode (l := codes)).length_le
    rw [eq_cons_of_afterLetter? h] at hdrop
    simp only [List.length_cons] at hdrop ⊢
    omega
  · cases h

/-- A text without its sequences. -/
def withoutSequences : List Char → List Char
  | [] => []
  | c :: s =>
    match _ : afterSequence? (c :: s) with
    | some rest => withoutSequences rest
    | none => c :: withoutSequences s
  termination_by s => s.length
  decreasing_by
    · exact length_lt_of_afterSequence? ‹_›
    · exact Nat.lt_succ_self _

/-- A sequence leaves nothing. -/
lemma withoutSequences_sequence {codes : List Char} (h : ∀ c ∈ codes, isCode c = true)
    (rest : List Char) :
    withoutSequences ('\x1b' :: '[' :: codes ++ 'm' :: rest) = withoutSequences rest := by
  have hafter : afterSequence? ('\x1b' :: '[' :: (codes ++ 'm' :: rest)) = some rest := by
    rw [afterSequence?, List.dropWhile_append_of_pos h, List.dropWhile_cons_of_neg (by decide)]
    rfl
  rw [List.cons_append, List.cons_append, withoutSequences]
  split
  · next after hsome => rw [Option.some.inj (hsome.symm.trans hafter)]
  · next hnone => cases hnone.symm.trans hafter

/-- What has no escape character stays. -/
lemma withoutSequences_append {s : List Char} (h : '\x1b' ∉ s) (rest : List Char) :
    withoutSequences (s ++ rest) = s ++ withoutSequences rest := by
  induction s with
  | nil => rfl
  | cons c s ih =>
    rw [List.mem_cons, not_or] at h
    have hafter : afterSequence? (c :: (s ++ rest)) = none := by
      unfold afterSequence?
      split
      · next heq => exact absurd (List.cons.inj heq).1.symm h.1
      · rfl
    rw [List.cons_append, withoutSequences]
    split
    · next hsome => cases hsome.symm.trans hafter
    · rw [ih h.2, List.cons_append]

end Text

/-- A text without its color sequences. -/
def withoutSequences (s : String) : String := .ofList (Text.withoutSequences s.toList)

/-! ## Styled texts -/

/-- A text has no escape character. -/
def Unescaped (s : String) : Prop := '\x1b' ∉ s.toList

instance : DecidablePred Unescaped := fun s => inferInstanceAs (Decidable ('\x1b' ∉ s.toList))

/-- A text without an escape character has nothing in it after which a style is resumed. -/
lemma resume_of_notMem {opening s : List Char} (h : '\x1b' ∉ s) : resume opening s = s := by
  fun_induction resume opening s with
  | case1 rest => simp at h
  | case2 c rest _ ih =>
    rw [List.mem_cons, not_or] at h
    rw [ih h.2]
  | case3 => rfl

/-- The codes of a style are digits and semicolons. -/
lemma Style.isCode_of_mem_codes (s : Style) : ∀ c ∈ s.codes.toList, Text.isCode c = true := by
  refine List.all_eq_true.mp ?_
  cases s <;> rfl

/-- Without sequences, a piece is its text. -/
lemma Piece.withoutSequences_render {p : Piece} (h : Unescaped p.text) (color : Bool)
    (rest : List Char) : Text.withoutSequences ((p.render color).toList ++ rest) =
      p.text.toList ++ Text.withoutSequences rest := by
  obtain ⟨style, text⟩ := p
  cases style with
  | none => exact Text.withoutSequences_append h rest
  | some style =>
    cases color with
    | false => exact Text.withoutSequences_append h rest
    | true =>
      -- The color would be begun again only behind a sequence in the text, and there is none.
      have hrender : (Piece.render true ⟨some style, text⟩).toList ++ rest =
          '\x1b' :: '[' :: style.codes.toList ++ 'm' ::
            (text.toList ++ ('\x1b' :: '[' :: ['0'] ++ 'm' :: rest)) := by
        simp [Piece.render, resume_of_notMem h, Style.sequence, resetSequence]
      rw [hrender, Text.withoutSequences_sequence style.isCode_of_mem_codes,
        Text.withoutSequences_append h,
        Text.withoutSequences_sequence (List.forall_mem_singleton.mpr rfl)]

namespace StyledText

/-- No piece has an escape character. -/
def Unescaped (t : StyledText) : Prop := ∀ p ∈ t, SnippetLint.Unescaped p.text

instance : DecidablePred Unescaped := fun t =>
  inferInstanceAs (Decidable (∀ p ∈ t, SnippetLint.Unescaped p.text))

/-- Without sequences, a text is the same with colors and without. -/
lemma withoutSequences_render {t : StyledText} (h : t.Unescaped) (color : Bool) :
    withoutSequences (t.render color) = String.join (t.map Piece.text) := by
  have hpieces : ∀ pieces : StyledText, pieces.Unescaped →
      Text.withoutSequences (pieces.flatMap fun p => (p.render color).toList) =
        pieces.flatMap fun p => p.text.toList := by
    intro pieces hpieces
    induction pieces with
    | nil => exact Text.withoutSequences.eq_1
    | cons p pieces ih =>
      obtain ⟨hp, hrest⟩ := List.forall_mem_cons.mp hpieces
      rw [List.flatMap_cons, List.flatMap_cons, Piece.withoutSequences_render hp, ih hrest]
  rw [withoutSequences, render, String.toList_join, List.flatMap_map, hpieces t h]
  apply String.toList_injective
  rw [String.toList_ofList, String.toList_join, List.flatMap_map]

/-- Without colors, a styled text is the text of its pieces. -/
lemma render_false (t : StyledText) : t.render false = String.join (t.map Piece.text) := by
  have hpiece : Piece.render false = Piece.text := by
    funext p
    obtain ⟨style, text⟩ := p
    cases style <;> rfl
  rw [render, hpiece]

lemma unescaped_append {t u : StyledText} :
    StyledText.Unescaped (t ++ u) ↔ t.Unescaped ∧ u.Unescaped :=
  List.forall_mem_append

lemma unescaped_flatMap {α : Type} {as : List α} {f : α → StyledText} :
    StyledText.Unescaped (as.flatMap f) ↔ ∀ a ∈ as, (f a).Unescaped := by
  unfold StyledText.Unescaped
  simp only [List.mem_flatMap]
  constructor
  · exact fun h a ha p hp => h p ⟨a, ha, hp⟩
  · intro h p hp
    obtain ⟨a, ha, hp⟩ := hp
    exact h a ha p hp

end StyledText

/-! ## Reports -/

@[simp]
lemma unescaped_append {s t : String} : Unescaped (s ++ t) ↔ Unescaped s ∧ Unescaped t := by
  simp [Unescaped, not_or]

/-- A number has no escape character. -/
@[simp]
lemma unescaped_decimal (n : Nat) : Unescaped (decimal n) := by
  unfold Unescaped decimal
  rw [String.toList_ofList]
  intro h
  cases Json.isDigit_of_mem_decimal n _ h

/-- Blanks that fill up a column have none either. -/
lemma unescaped_padded {s : String} (width : Nat) (h : Unescaped s) :
    Unescaped (padded width s) := by
  unfold Unescaped padded Text.padRight
  rw [String.toList_ofList, List.mem_append, not_or]
  refine ⟨h, fun hblank => ?_⟩
  cases List.eq_of_mem_replicate hblank

/-- No text of a defect has an escape character. -/
structure Defect.Unescaped (d : Defect) : Prop where
  rule : SnippetLint.Unescaped d.rule
  message : SnippetLint.Unescaped d.message
  suggestion : SnippetLint.Unescaped d.suggestion
  consequence : SnippetLint.Unescaped d.consequence

/-- No text of the analysis of a file has an escape character. -/
structure FileReport.Unescaped (f : FileReport) : Prop where
  path : SnippetLint.Unescaped f.path
  language : SnippetLint.Unescaped f.language
  summary : SnippetLint.Unescaped f.result.summary
  errors : ∀ d ∈ f.result.errors, d.Unescaped
  suggestions : ∀ s ∈ f.result.suggestions, SnippetLint.Unescaped s

lemma Severity.unescaped_tag (s : Severity) : Unescaped s.tag.text := by
  cases s <;> decide

namespace Report

/-- The line of a defect has an escape character only if its rule or its message has one. -/
lemma unescaped_prettyDefect {d : Defect} (h : d.Unescaped) : (prettyDefect d).Unescaped := by
  have hpadded := unescaped_padded 18 h.rule
  simp +decide [prettyDefect, StyledText.Unescaped, plain, styled, lineEnd, hpadded,
    d.severity.unescaped_tag, h.message, h.suggestion, h.consequence]

lemma unescaped_prettyDefects {defects : List Defect} (h : ∀ d ∈ defects, d.Unescaped) :
    (prettyDefects defects).Unescaped := by
  unfold prettyDefects
  split
  · exact List.forall_mem_nil _
  · rw [StyledText.unescaped_append, StyledText.unescaped_flatMap]
    refine ⟨?_, fun d hd => unescaped_prettyDefect (h d hd)⟩
    simp +decide [StyledText.Unescaped, plain, styled, lineEnd]

lemma unescaped_prettySuggestions {suggestions : List String}
    (h : ∀ s ∈ suggestions, Unescaped s) : (prettySuggestions suggestions).Unescaped := by
  unfold prettySuggestions
  split
  · exact List.forall_mem_nil _
  · rw [StyledText.unescaped_append, StyledText.unescaped_flatMap]
    refine ⟨by decide, fun s hs => ?_⟩
    simp +decide [StyledText.Unescaped, plain, lineEnd, h s hs]

/-- The section of a file has one only if its path, its defects or its suggestions have one. -/
lemma unescaped_prettyFile {f : FileReport} (h : f.Unescaped) : (prettyFile f).Unescaped := by
  unfold prettyFile
  rw [StyledText.unescaped_append, StyledText.unescaped_append]
  refine ⟨⟨?_, unescaped_prettyDefects h.errors⟩, unescaped_prettySuggestions h.suggestions⟩
  cases f.result.hasErrors <;>
    simp +decide [StyledText.Unescaped, plain, styled, lineEnd, h.path, h.language, h.summary]

/-- The status is made of numbers and fixed texts. -/
lemma unescaped_prettyStatus (files : List FileReport) (m : UInt8) :
    (prettyStatus files m).Unescaped := by
  unfold prettyStatus
  dsimp only
  split <;> simp +decide [StyledText.Unescaped, plain, styled, lineEnd]

/-- If no text that is reported has an escape character, the report has none but for its colors. -/
lemma unescaped_pretty {files : List FileReport} (h : ∀ f ∈ files, f.Unescaped) (m : UInt8) :
    (pretty files m).Unescaped := by
  unfold pretty
  simp only [StyledText.unescaped_append, StyledText.unescaped_flatMap]
  exact ⟨⟨⟨by decide, fun f hf => ⟨unescaped_prettyFile (h f hf), by decide⟩⟩,
    unescaped_prettyStatus files m⟩, by decide⟩

/-! ## Columns -/

/-- What is written for a member stands within what is written for the list. -/
lemma infix_flatMap {α : Type} {as : List α} {a : α} (h : a ∈ as) (f : α → StyledText) :
    f a <:+: as.flatMap f :=
  List.infix_of_mem_flatten (List.mem_map_of_mem h)

/-- The lines of each defect are part of the report. -/
lemma prettyDefect_within_pretty {files : List FileReport} {f : FileReport} (hf : f ∈ files)
    {d : Defect} (hd : d ∈ f.result.errors) (m : UInt8) : prettyDefect d <:+: pretty files m := by
  -- From the inside out: the defect, the section of its file, all sections, the report.
  have hdefects : prettyDefect d <:+: prettyDefects f.result.errors := by
    unfold prettyDefects
    rw [if_neg (by simpa using List.ne_nil_of_mem hd)]
    exact (infix_flatMap hd prettyDefect).trans (List.suffix_append _ _).isInfix
  have hfile : prettyDefects f.result.errors <:+: prettyFile f ++ [lineEnd] := by
    unfold prettyFile
    rw [List.append_assoc]
    exact List.infix_append _ _ _
  have hfiles := infix_flatMap hf fun f => prettyFile f ++ [lineEnd]
  have hreport : (files.flatMap fun f => prettyFile f ++ [lineEnd]) <:+: pretty files m := by
    unfold pretty
    rw [List.append_assoc]
    exact List.infix_append _ _ _
  exact hdefects.trans (hfile.trans (hfiles.trans hreport))

/-- All tags of a severity are equally wide. -/
lemma length_tag (s : Severity) : s.tag.text.length = 5 := by
  cases s <;> rfl

/-- What can be seen of the lines of a defect: in front of its rule stands the tag of its severity,
which has always the same width, and behind it are blanks up to the width of the column. -/
lemma text_prettyDefect (d : Defect) : String.join ((prettyDefect d).map Piece.text) =
    ("    " ++ d.severity.tag.text ++ "    ") ++
      (d.rule ++ .ofList (List.replicate (18 - d.rule.length) ' ')) ++
      ("line " ++ decimal d.line ++ "\n            " ++ d.message ++ "\n            fix: " ++
        d.suggestion ++ "\n            why: " ++ d.consequence ++ "\n\n") := by
  apply String.toList_injective
  simp [prettyDefect, plain, styled, lineEnd, padded, Text.padRight, String.length_toList]

/-- A report is the same text with colors as without, once the sequences are deleted that begin and
end a color, provided that no text that is reported has an escape character. In both, the column of
a rule begins behind thirteen characters and is eighteen characters wide, or as wide as the rule is
if that is more. -/
theorem colors_carry_nothing {files : List FileReport} (h : ∀ f ∈ files, f.Unescaped) (m : UInt8) :
    withoutSequences ((pretty files m).render true) = (pretty files m).render false ∧
    ∀ f ∈ files, ∀ d ∈ f.result.errors, prettyDefect d <:+: pretty files m ∧
      ∃ front back, front.length = 13 ∧ ∀ color,
        withoutSequences ((prettyDefect d : StyledText).render color) =
          front ++ (d.rule ++ .ofList (List.replicate (18 - d.rule.length) ' ')) ++ back := by
  refine ⟨?_, fun f hf d hd => ⟨prettyDefect_within_pretty hf hd m, ?_⟩⟩
  · rw [StyledText.withoutSequences_render (unescaped_pretty h m), StyledText.render_false]
  · have hfront : ("    " ++ d.severity.tag.text ++ "    ").length = 13 := by
      rw [String.length_append, String.length_append, length_tag]
      rfl
    have htext := StyledText.withoutSequences_render
      (unescaped_prettyDefect ((h f hf).errors d hd))
    rw [text_prettyDefect] at htext
    exact ⟨_, _, hfront, htext⟩

/-- A file with rules that fill their column less than, exactly and more than wholly, and with a
message that looks like a sequence without its escape character. -/
def columnFile : FileReport where
  path := ""
  language := "[0m"
  result :=
    { hasErrors := true
      errors := [⟨"short", 1, .error, "[31m", "", "é"⟩,
        ⟨"eighteen-wide-rule", 2, .warning, "", "", ""⟩,
        ⟨"wider-than-its-column", 3, .info, "", "", ""⟩]
      summary := ""
      codeQuality := 60
      suggestions := ["m"] }

/-- A report with rules shorter than their column, as wide as it, and wider. -/
theorem colors_carry_nothing_columns :
    (∀ f ∈ [columnFile], f.Unescaped) ∧
    withoutSequences ((pretty [columnFile] 61).render true) =
      (pretty [columnFile] 61).render false ∧
    ∀ d ∈ columnFile.result.errors, ∃ front back, front.length = 13 ∧ ∀ color,
      withoutSequences ((prettyDefect d : StyledText).render color) =
        front ++ (d.rule ++ .ofList (List.replicate (18 - d.rule.length) ' ')) ++ back := by
  have hfile : ∀ f ∈ [columnFile], f.Unescaped := by
    refine List.forall_mem_singleton.mpr ⟨by decide, by decide, by decide, ?_, by decide⟩
    intro d hd
    simp only [columnFile, List.mem_cons, List.not_mem_nil, or_false] at hd
    obtain rfl | rfl | rfl := hd <;> exact ⟨by decide, by decide, by decide, by decide⟩
  obtain ⟨htext, hcolumns⟩ := colors_carry_nothing hfile 61
  exact ⟨hfile, htext, fun d hd => (hcolumns _ List.mem_cons_self d hd).2⟩

end Report

end SnippetLint
