import SnippetLint.Assistant
import SnippetLint.Proofs.Detection
import SnippetLint.Proofs.Lines

/-!
# Blank code

Blank code is looked out for twice: a request with nothing but white space is refused, and an
analysis of such code lists no defects without asking any rule. Both go by the same texts, those of
which nothing is left without the blanks at their ends.

For the built-in rules the second guard only saves time. Each of them looks for something that has a
character in it that is no blank, whichever way a match takes through its pattern
(`Regex.asksVisible`, `Matches.exists_visible`); so none of them fires on blank code, be it as long
as it may (`Catalogue.detect_blank`). A rule of one's own can look for blanks alone, and then the
guard is what keeps it silent.
-/

namespace SnippetLint

open Text Cursor Pattern

/-! ## Matches of something visible -/

namespace Pattern

/-- Every way through an expression takes a character that is no blank. -/
def Regex.asksVisible {α : Type} : Regex α → Bool
  | .empty => false
  | .set s _ => blankCharacters.all fun c => !s.contains c
  | .look _ => false
  | .cat r s => r.asksVisible || s.asksVisible
  | .alt r s => r.asksVisible && s.asksVisible
  | .plus r _ => r.asksVisible

/-- A set without any blank in it has visible characters only. -/
lemma isBlank_eq_false_of_contains {s : CharSet} {c : Char}
    (hs : (blankCharacters.all fun c => !s.contains c) = true) (hc : s.contains c = true) :
    Unicode.isBlank c = false := by
  by_contra hblank
  have hmem := mem_blankCharacters (by simpa using hblank)
  have hnot := List.all_eq_true.mp hs c hmem
  rw [hc] at hnot
  cases hnot

/-- A match of such an expression has something visible in it. -/
lemma Matches.exists_visible {α : Type} {r : Regex α} {cur stop : Cursor} (h : Matches r cur stop)
    (hasks : r.asksVisible = true) : ∃ c ∈ cur.rest, Unicode.isBlank c = false := by
  induction h with
  | empty | look _ => cases hasks
  | set hrest hc =>
    refine ⟨_, ?_, isBlank_eq_false_of_contains hasks hc⟩
    rw [hrest]
    exact List.mem_cons_self
  | cat hr _ ihr ihs =>
    obtain hfirst | hsecond := (Bool.or_eq_true _ _).mp hasks
    · exact ihr hfirst
    · -- What the second part takes comes later in the same text.
      obtain ⟨c, hc, hvisible⟩ := ihs hsecond
      obtain ⟨w, hw, -⟩ := hr.exists_skip
      exact ⟨c, hw ▸ List.mem_append_right w hc, hvisible⟩
  | altLeft _ ih => exact ih (Bool.and_eq_true_iff.mp hasks).1
  | altRight _ ih => exact ih (Bool.and_eq_true_iff.mp hasks).2
  | plusLast _ ih | plusMore _ _ ih _ =>
    -- The first turn takes such a character already.
    exact ih hasks

end Pattern

/-! ## Rules on blank code -/

/-- Whatever a rule looks for has a character in it that is no blank. -/
def Matcher.asksVisible : Matcher → Bool
  | .pattern r => r.asksVisible
  | .unclosedTag opening _ => opening.asksVisible

/-- What occurs at a place is visible there, for tags as well as for expressions. -/
lemma Matcher.OccursAt.exists_visible {m : Matcher} {text : List Char} {p : Cursor}
    (h : m.OccursAt text p) (hasks : m.asksVisible = true) :
    ∃ c ∈ p.rest, Unicode.isBlank c = false := by
  cases m with
  | pattern r =>
    obtain ⟨stop, hstop⟩ := h
    exact hstop.exists_visible hasks
  | unclosedTag opening closing =>
    obtain ⟨stop, hmem, -⟩ := h
    exact ((findAll_iterates opening text).sound _ hmem).2.exists_visible hasks

/-- A rule that looks for something visible does not fire on blank code. -/
lemma Rule.not_fires_of_blank {r : Rule} (hasks : r.matcher.asksVisible = true) {code : String}
    (hblank : All Unicode.isBlank code.toList) : r.fires code = false := by
  rw [fires, ← Bool.not_eq_true, (firstMatch?_isFirst r.matcher code.toList).isSome_iff]
  intro h
  -- Wherever it occurs, what is visible there stands in the code itself.
  obtain ⟨p, hp, hoccurs⟩ := h
  obtain ⟨before, rest, hcode, rfl⟩ := mem_places.mp hp
  obtain ⟨c, hc, hvisible⟩ := hoccurs.exists_visible hasks
  rw [rest_between] at hc
  have hmem : c ∈ code.toList := hcode ▸ List.mem_append_right before hc
  rw [hblank c hmem] at hvisible
  cases hvisible

/-- Rules that look for something visible find nothing in blank code. -/
lemma Catalogue.detect_blank {c : Catalogue}
    (hasks : ∀ l, ∀ r ∈ c.rulesFor l, r.matcher.asksVisible = true) {code : String}
    (hblank : All Unicode.isBlank code.toList) (name : String) : c.detect code name = [] := by
  cases hname : Language.parse? name with
  | none => exact detect_eq_nil hname c code
  | some l =>
    have hsilent : (c.rulesFor l).filter (·.fires code) = [] := by
      rw [List.filter_eq_nil_iff]
      intro r hr
      rw [Rule.not_fires_of_blank (hasks l r hr) hblank]
      exact Bool.false_ne_true
    have hnone := detect_forall₂ hname c code
    rwa [hsilent, List.forall₂_nil_left_iff] at hnone

/-- The built-in rules look for something visible. -/
lemma asksVisible_of_mem_builtin (l : Language) :
    ∀ r ∈ Catalogue.builtin.rulesFor l, r.matcher.asksVisible = true := by
  have hall : ∀ entry ∈ Builtin.rules, entry.2.matcher.asksVisible = true := by decide +kernel
  intro r hr
  obtain ⟨entry, hentry, rfl⟩ := List.mem_map.mp hr
  exact hall entry (List.mem_filter.mp hentry).1

/-! ## The guard of an analysis -/

/-- What an analysis says about a text that has certain defects. -/
def Analysis.ofDefects (s : Scoring) (name : String) (defects : List Defect) : Analysis where
  hasErrors := !defects.isEmpty
  errors := defects
  summary := summarize defects (Analyzer.displayName name)
  codeQuality := s.score defects.length
  suggestions := advice (Language.parse? name)

namespace Analyzer

variable {code : String}

/-- Blank code is not looked at. -/
lemma defects_of_blank (a : Analyzer) (hblank : All Unicode.isBlank code.toList) (name : String) :
    a.defects code name = [] := by
  rw [defects, if_pos ((isBlankText_iff code).mpr hblank)]

/-- All other code is given to the catalogue. -/
lemma defects_of_visible (a : Analyzer) (hvisible : ¬ All Unicode.isBlank code.toList)
    (name : String) : a.defects code name = a.catalogue.detect code name := by
  rw [defects, if_neg (mt (isBlankText_iff code).mp hvisible)]

/-- An analysis is made from the defects alone, whichever way they were found. -/
lemma analyze_eq_ofDefects (a : Analyzer) (code name : String) :
    a.analyze code name = .ofDefects a.scoring name (a.defects code name) := rfl

/-- With the built-in rules it makes no difference whether blank code is looked at. -/
lemma defects_builtin (s : Scoring) (code name : String) :
    (⟨.builtin, s⟩ : Analyzer).defects code name = Catalogue.builtin.detect code name := by
  by_cases hblank : All Unicode.isBlank code.toList
  · rw [defects_of_blank _ hblank, Catalogue.detect_blank asksVisible_of_mem_builtin hblank]
  · exact defects_of_visible _ hblank name

end Analyzer

/-! ## The guard of a request -/

namespace Assistant

/-- The answer to a request, unless a part of the request is blank. -/
def unlessBlank {α : Type} (field : RequestField) (text : String) (answer : α) :
    Except BlankInput α :=
  if isBlankText text then .error ⟨field⟩ else .ok answer

section unlessBlank

variable {α : Type} (field : RequestField) {text : String} (answer : α)

lemma unlessBlank_of_blank (hblank : All Unicode.isBlank text.toList) :
    unlessBlank field text answer = .error ⟨field⟩ := by
  rw [unlessBlank, if_pos ((isBlankText_iff text).mpr hblank)]

lemma unlessBlank_of_visible (hvisible : ¬ All Unicode.isBlank text.toList) :
    unlessBlank field text answer = .ok answer := by
  rw [unlessBlank, if_neg (mt (isBlankText_iff text).mp hvisible)]

/-- A request is turned down for its blank text and for nothing else. -/
lemma unlessBlank_eq_error_iff (e : BlankInput) :
    unlessBlank field text answer = .error e ↔ All Unicode.isBlank text.toList ∧ e = ⟨field⟩ := by
  by_cases hblank : All Unicode.isBlank text.toList
  · rw [unlessBlank_of_blank field answer hblank, Except.error.injEq, eq_comm]
    exact (and_iff_right hblank).symm
  · rw [unlessBlank_of_visible field answer hblank]
    exact iff_of_false (fun h => nomatch h) fun h => hblank h.1

lemma unlessBlank_eq_ok_iff (x : α) :
    unlessBlank field text answer = .ok x ↔ ¬ All Unicode.isBlank text.toList ∧ x = answer := by
  by_cases hblank : All Unicode.isBlank text.toList
  · rw [unlessBlank_of_blank field answer hblank]
    exact iff_of_false (fun h => nomatch h) fun h => h.1 hblank
  · rw [unlessBlank_of_visible field answer hblank, Except.ok.injEq, eq_comm]
    exact (and_iff_right hblank).symm

end unlessBlank

lemma analyze_eq_unlessBlank (a : Assistant) (code name : String) :
    a.analyze code name = unlessBlank .code code (a.analyzer.analyze code name) := rfl

lemma generate_eq_unlessBlank (a : Assistant) (prompt name : String) :
    a.generate prompt name = unlessBlank .prompt prompt (a.templates.generate prompt name) := rfl

end Assistant

/-! ## Both guards -/

/-- A request is refused exactly if its code or its prompt has nothing but white space, and otherwise
answered with what the analysis or the templates give. Blank code has no defects, whatever the rules
are, and the score of clean code; the rules are asked about all other code. The built-in rules find
nothing in blank code anyway, so with them every analysis says what the rules find. -/
theorem blank_guards_agree :
    (∀ text : String, trimmed text = "" ↔ All Unicode.isBlank text.toList) ∧
    (∀ (a : Assistant) (code name : String),
      (∀ e, a.analyze code name = .error e ↔
        All Unicode.isBlank code.toList ∧ e = ⟨.code⟩) ∧
      ∀ x, a.analyze code name = .ok x ↔
        ¬ All Unicode.isBlank code.toList ∧ x = a.analyzer.analyze code name) ∧
    (∀ (a : Assistant) (prompt name : String),
      (∀ e, a.generate prompt name = .error e ↔
        All Unicode.isBlank prompt.toList ∧ e = ⟨.prompt⟩) ∧
      ∀ x, a.generate prompt name = .ok x ↔
        ¬ All Unicode.isBlank prompt.toList ∧ x = a.templates.generate prompt name) ∧
    (∀ (a : Analyzer) (code name : String),
      (All Unicode.isBlank code.toList → (a.analyze code name).errors = [] ∧
        (a.analyze code name).codeQuality = a.scoring.cleanScore) ∧
      (¬ All Unicode.isBlank code.toList →
        a.analyze code name = .ofDefects a.scoring name (a.catalogue.detect code name))) ∧
    (∀ code name : String, All Unicode.isBlank code.toList →
      Catalogue.builtin.detect code name = []) ∧
    ∀ (s : Scoring) (code name : String), (⟨.builtin, s⟩ : Analyzer).analyze code name =
      .ofDefects s name (Catalogue.builtin.detect code name) := by
  refine ⟨fun text => ?_, fun a code name => ⟨fun e => ?_, fun x => ?_⟩,
    fun a prompt name => ⟨fun e => ?_, fun x => ?_⟩,
    fun a code name => ⟨fun hblank => ?_, fun hvisible => ?_⟩, fun code name hblank => ?_,
    fun s code name => ?_⟩
  · exact (isBlankText_iff_trimmed text).symm.trans (isBlankText_iff text)
  · rw [a.analyze_eq_unlessBlank, Assistant.unlessBlank_eq_error_iff]
  · rw [a.analyze_eq_unlessBlank, Assistant.unlessBlank_eq_ok_iff]
  · rw [a.generate_eq_unlessBlank, Assistant.unlessBlank_eq_error_iff]
  · rw [a.generate_eq_unlessBlank, Assistant.unlessBlank_eq_ok_iff]
  · rw [a.analyze_eq_ofDefects, a.defects_of_blank hblank]
    exact ⟨rfl, rfl⟩
  · rw [a.analyze_eq_ofDefects, a.defects_of_visible hvisible]
  · exact Catalogue.detect_blank asksVisible_of_mem_builtin hblank name
  · rw [Analyzer.analyze_eq_ofDefects, Analyzer.defects_builtin]

/-- Blanks and line ends beyond ASCII are white space, but a blank of no width is not. -/
theorem blank_guards_agree_separators :
    All Unicode.isBlank "\u2003\u0085\u2028\x0b".toList ∧
    (Analyzer.builtin.analyze "\u2003\u0085\u2028\x0b" "css").errors = [] ∧
    (Analyzer.builtin.analyze "\u2003\u0085\u2028\x0b" "css").codeQuality = 100 ∧
    Catalogue.builtin.detect "\u2003\u0085\u2028\x0b" "css" = [] ∧
    ¬ All Unicode.isBlank "\u200b:\u200b".toList ∧
    Assistant.builtin.analyze "\u200b:\u200b" "css" =
      .ok (Analyzer.builtin.analyze "\u200b:\u200b" "css") ∧
    Analyzer.builtin.analyze "\u200b:\u200b" "css" =
      .ofDefects {} "css" (Catalogue.builtin.detect "\u200b:\u200b" "css") := by
  obtain ⟨-, hrequest, -, hanalysis, hrules, -⟩ := blank_guards_agree
  have hblank : All Unicode.isBlank "\u2003\u0085\u2028\x0b".toList := by decide +kernel
  have hvisible : ¬ All Unicode.isBlank "\u200b:\u200b".toList := by decide +kernel
  obtain ⟨herrors, hscore⟩ := (hanalysis .builtin _ "css").1 hblank
  exact ⟨hblank, herrors, hscore, hrules _ _ hblank, hvisible,
    ((hrequest .builtin _ "css").2 _).mpr ⟨hvisible, rfl⟩, (hanalysis .builtin _ "css").2 hvisible⟩

/-- A rule that looks for blanks alone is silent because of the guard. -/
example :
    let rules := Catalogue.empty.push .css
      ⟨"blanks", "Blanks", .info, .firstMatch, .pattern Builtin.blanks⟩
    (rules.detect " \n" "css").length = 1 ∧
      ((⟨rules, {}⟩ : Analyzer).analyze " \n" "css").errors = [] := by
  decide +kernel

end SnippetLint
