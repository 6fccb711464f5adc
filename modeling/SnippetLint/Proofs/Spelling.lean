import SnippetLint.Proofs.Examined

/-!
# How the name of a language is spelled

A text that names a language has a normal form, the identifier of the language (`Language.display`);
a text that names none is its own normal form. Whatever is done with a text is the same for its
normal form, so two spellings of a language can never be told apart, and the language that stands in
a report gives the analysis of the report once more.
-/

namespace SnippetLint

namespace Language

/-! ## The normal form -/

/-- The identifier of a language names it. -/
lemma parse?_id (l : Language) : parse? l.id = some l := by
  cases l <;> decide +kernel

/-- The normal form of a text that names a language is the identifier of the language. -/
lemma display_of_parse? {s : String} {l : Language} (h : parse? s = some l) :
    display s = l.id := by
  rw [display, h, Option.elim_some]

lemma display_of_unknown {s : String} (h : parse? s = none) : display s = s := by
  rw [display, h, Option.elim_none]

/-- The normal form names the same language. -/
lemma parse?_display (s : String) : parse? (display s) = parse? s := by
  cases h : parse? s with
  | none => rw [display_of_unknown h, h]
  | some l => rw [display_of_parse? h, parse?_id]

/-- A normal form is its own normal form. -/
lemma display_display (s : String) : display (display s) = display s := by
  cases h : parse? s with
  | none => rw [display_of_unknown h, display_of_unknown h]
  | some l => rw [display_of_parse? h, display_of_parse? (parse?_id l)]

end Language

open SnippetLint.Language

/-! ## What is the same for the normal form -/

/-- The rules for a text are those for its normal form. -/
lemma Catalogue.lookup_display (c : Catalogue) (s : String) :
    c.lookup (display s) = c.lookup s := by
  rw [lookup, lookup, parse?_display]

lemma Catalogue.detect_display (c : Catalogue) (code s : String) :
    c.detect code (display s) = c.detect code s := by
  rw [detect, detect, parse?_display]

namespace Analyzer

/-- In a summary stands the identifier, or the text without the blanks at its ends. -/
lemma displayName_display (s : String) : displayName (display s) = displayName s := by
  cases h : parse? s with
  | none => rw [display_of_unknown h]
  | some l => rw [displayName, displayName, parse?_display, h]

/-- An analysis does not depend on the spelling of its language. -/
lemma analyze_display (a : Analyzer) (code s : String) :
    a.analyze code (display s) = a.analyze code s := by
  have hdefects : a.defects code (display s) = a.defects code s := by
    rw [defects, defects, Catalogue.detect_display]
  rw [analyze, analyze, hdefects, displayName_display, parse?_display]

end Analyzer

/-- Generated code does not show how its language was spelled, unless there are no templates for it:
then the text itself is part of what is generated. -/
lemma TemplateStore.generate_display (t : TemplateStore) {s : String} {l : Language}
    (h : parse? s = some l) (htemplates : (t.templatesFor? l).isSome) (prompt : String) :
    t.generate prompt (display s) = t.generate prompt s := by
  obtain ⟨templates, hl⟩ := Option.isSome_iff_exists.mp htemplates
  rw [generate, generate, select?, select?, parse?_display, h, Option.bind_some, hl]
  rfl

/-- The language that stands in a report gives the same analysis again. -/
lemma Run.analyze_reported {w : World} {assistant : Assistant} {inputs : List Input}
    {reports : List FileReport} (h : Yields (analyzeInputs w assistant inputs) (.ok reports))
    {report : FileReport} (hreport : report ∈ reports) :
    ∃ input ∈ inputs, ∃ text, input.HasText w text ∧ report.language = display input.language ∧
      assistant.analyze text report.language = .ok report.result := by
  have hresult := (analyzeInputs_yields w assistant inputs).unique h
  cases hfound : inputs.mapM fun input => (analyzeInput w assistant input).2 with
  | error failure =>
    rw [hfound] at hresult
    cases hresult
  | ok found =>
    rw [hfound] at hresult
    obtain rfl : found.filterMap id = reports := Except.ok.inj hresult
    obtain ⟨_, hmem, rfl⟩ := List.mem_filterMap.mp hreport
    obtain ⟨input, hinput, hexamined⟩ := exists_of_mem_right (mapM_analyzeInput_eq_ok hfound) hmem
    cases hexamined with
    | analyzed has code =>
      refine ⟨input, hinput, _, has, rfl, ?_⟩
      rw [Assistant.analyze, code, if_neg Bool.false_ne_true, Analyzer.analyze_display]

/-- Two texts that name the same language give the same rules, defects, analyses and, if there are
templates for the language, the same generated code. The normal form of a text names the same
language as the text, is its own normal form, and gives the same analyses; so what a report says
about a file is found again with the language that it says the file is in. -/
theorem Language.spelling_irrelevant :
    (∀ s s' l, parse? s = some l → parse? s' = some l →
      (∀ (a : Analyzer) (code : String), a.analyze code s = a.analyze code s') ∧
      (∀ c : Catalogue, c.lookup s = c.lookup s' ∧ ∀ code, c.detect code s = c.detect code s') ∧
      ∀ (t : TemplateStore) (prompt : String), (t.templatesFor? l).isSome →
        t.generate prompt s = t.generate prompt s') ∧
    (∀ s, parse? (display s) = parse? s ∧ display (display s) = display s ∧
      ∀ (a : Analyzer) (code : String), a.analyze code (display s) = a.analyze code s) ∧
    ∀ (w : World) (assistant : Assistant) (inputs : List Input) (reports : List FileReport),
      Run.Yields (Run.analyzeInputs w assistant inputs) (.ok reports) → ∀ report ∈ reports,
        ∃ input ∈ inputs, ∃ text, input.HasText w text ∧
          report.language = display input.language ∧
          assistant.analyze text report.language = .ok report.result := by
  refine ⟨fun s s' l hs hs' => ?_, fun s => ?_, fun w assistant inputs reports h report => ?_⟩
  · have hsame : display s = display s' := by
      rw [display_of_parse? hs, display_of_parse? hs']
    refine ⟨fun a code => ?_, fun c => ⟨?_, fun code => ?_⟩, fun t prompt htemplates => ?_⟩
    · rw [← a.analyze_display code s, hsame, a.analyze_display]
    · rw [← c.lookup_display s, hsame, c.lookup_display]
    · rw [← c.detect_display code s, hsame, c.detect_display]
    · rw [← t.generate_display hs htemplates, hsame, t.generate_display hs' htemplates]
  · exact ⟨parse?_display s, display_display s, fun a code => a.analyze_display code s⟩
  · exact Run.analyze_reported h

/-- A working directory with one file. -/
def printFile : World :=
  ⟨{ root := .directory [("a.py", .file "print(1)".toUTF8)], workingDirectory := [] }, none, .empty⟩

/-- Blanks around the name of a language and its capitals make no difference. -/
theorem Language.spelling_irrelevant_capitals :
    parse? "\u2003JS\n" = some .javaScript ∧ parse? "JavaScript" = some .javaScript ∧
    Analyzer.builtin.analyze "var x;" "\u2003JS\n" =
      Analyzer.builtin.analyze "var x;" "JavaScript" ∧
    (TemplateStore.bundled.templatesFor? .javaScript).isSome ∧
    TemplateStore.bundled.generate "todo" "\u2003JS\n" =
      TemplateStore.bundled.generate "todo" "JavaScript" ∧
    ∃ report, Run.Yields (Run.analyzeInputs printFile .builtin [⟨"a.py", " PY"⟩]) (.ok [report]) ∧
      report.language = "python" ∧
      Assistant.builtin.analyze "print(1)" report.language = .ok report.result := by
  obtain ⟨hsame, -, hrun⟩ := spelling_irrelevant
  have hname : parse? "\u2003JS\n" = some .javaScript := by decide +kernel
  have hname' : parse? "JavaScript" = some .javaScript := by decide +kernel
  have htemplates : (TemplateStore.bundled.templatesFor? .javaScript).isSome := by decide +kernel
  obtain ⟨hanalyze, -, hgenerate⟩ := hsame _ _ _ hname hname'
  refine ⟨hname, hname', hanalyze _ _, htemplates, hgenerate _ _ htemplates, ?_⟩
  have hyields := Run.analyzeInputs_yields printFile .builtin [⟨"a.py", " PY"⟩]
  have hfound : [⟨"a.py", " PY"⟩].mapM (fun input =>
      (Run.analyzeInput printFile .builtin input).2) =
        .ok [some ⟨"a.py", "python", Analyzer.builtin.analyze "print(1)" " PY"⟩] := by
    decide +kernel
  rw [hfound] at hyields
  obtain ⟨input, hinput, text, htext, -, hagain⟩ :=
    hrun _ _ _ _ hyields _ List.mem_cons_self
  obtain rfl := List.mem_singleton.mp hinput
  have hread : Run.readInput printFile ⟨"a.py", " PY"⟩ = .ok "print(1)" := rfl
  obtain rfl := htext.unique (Run.hasText_of_readInput hread)
  exact ⟨_, hyields, rfl, hagain⟩

end SnippetLint
