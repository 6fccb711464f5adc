import SnippetLint.Proofs.Configured
import SnippetLint.Proofs.Score
import SnippetLint.Proofs.Search

/-!
# What a valid configuration promises

A configuration is looked at once, before anything is analyzed. What is asked of it then is enough
for all analyses that follow (`Config.validate_safe`): there is a catalogue and there are globs,
scores stay within their bounds, and whatever is reported can be shown to a reader, with the name of
a rule and with a line of a text.

The last two are properties of a rule that the defects inherit (`Rule.Sound.defect`). The built-in
rules have them, and a rule of a configuration has them because of the checks that it has passed.
-/

namespace SnippetLint

/-! ## Rules and the defects that they report -/

/-- A rule that reports what can be shown: it has a name, and its line, if it is always the same, is
counted from one. -/
structure Rule.Sound (r : Rule) : Prop where
  named : isBlankText r.id = false
  counted : r.line ≠ .fixed 0

/-- A line that a rule reports is one of a text. -/
lemma Rule.Sound.one_le_of_evaluate {r : Rule} (h : r.Sound) {code : String} {n : Nat}
    (hn : r.evaluate code = some n) : 1 ≤ n := by
  obtain ⟨place, hplace, rfl⟩ := Option.map_eq_some_iff.mp hn
  cases hline : r.line with
  | fixed line =>
    apply Nat.pos_of_ne_zero
    rintro (rfl : line = 0)
    exact h.counted hline
  | firstMatch => exact Cursor.one_le_line (Pattern.firstMatch?_mem_places hplace)

lemma Rule.Sound.defect {r : Rule} (h : r.Sound) {code : String} {l : Language} {d : Defect}
    (hd : r.defect? code l = some d) : 1 ≤ d.line ∧ isBlankText d.rule = false := by
  obtain ⟨n, hn, rfl⟩ := Option.map_eq_some_iff.mp hd
  exact ⟨h.one_le_of_evaluate hn, h.named⟩

/-- What the rules of a catalogue report can be shown if the rules are sound. -/
lemma Analyzer.sound_errors {a : Analyzer} (h : ∀ l, ∀ r ∈ a.catalogue.rulesFor l, r.Sound)
    {code name : String} : ∀ d ∈ (a.analyze code name).errors,
      1 ≤ d.line ∧ isBlankText d.rule = false := by
  intro d hd
  rw [errors_analyze] at hd
  split at hd
  · cases hd
  · cases hname : Language.parse? name with
    | none =>
      rw [Catalogue.detect_eq_nil hname] at hd
      cases hd
    | some l =>
      rw [Catalogue.detect_eq hname] at hd
      obtain ⟨r, hr, hdefect⟩ := List.mem_filterMap.mp hd
      exact (h l r hr).defect hdefect

/-- Each rule of the language reports one defect at most. -/
lemma Analyzer.length_errors_le (a : Analyzer) (code name : String) :
    (a.analyze code name).errors.length ≤ (a.catalogue.lookup name).length := by
  rw [errors_analyze]
  split
  · exact Nat.zero_le _
  · rw [Catalogue.lookup]
    cases hname : Language.parse? name with
    | none =>
      rw [Catalogue.detect_eq_nil hname]
      exact Nat.le_refl _
    | some l =>
      rw [Catalogue.detect_eq hname]
      exact List.length_filterMap_le _ _

/-- The built-in rules have names and lines that are counted from one. -/
lemma sound_of_mem_builtin {l : Language} {r : Rule} (h : r ∈ Catalogue.builtin.rulesFor l) :
    r.Sound := by
  obtain ⟨entry, hentry, rfl⟩ := List.mem_map.mp h
  have hall : ∀ entry ∈ Builtin.rules, isBlankText entry.2.id = false ∧
      entry.2.line ≠ .fixed 0 := by
    decide +kernel
  obtain ⟨hid, hline⟩ := hall entry (List.mem_filter.mp hentry).1
  exact ⟨hid, hline⟩

/-- A rule of a configuration that has been checked is sound once it is compiled. -/
lemma CustomRule.sound_of_compile {r : CustomRule} (hvalid : r.validate = .ok ())
    {entry : Language × Rule} (h : r.compile = .ok entry) : entry.2.Sound := by
  obtain ⟨-, hzero, regex, -, hrule⟩ := compile_eq_ok_iff.mp h
  rw [hrule]
  constructor
  · rw [validate] at hvalid
    split at hvalid
    · cases hvalid
    · next hid => exact eq_false_of_ne_true hid
  · -- A line that is given is not zero, and without one there is no fixed line.
    rcases hline : r.line with _ | n
    · simp
    · rw [hline] at hzero
      simpa using hzero

namespace Config

variable {c : Config} {rules : Catalogue}

/-- All rules of a valid configuration are sound, the built-in ones and its own. -/
lemma sound_of_mem_rulesFor (hvalid : ∀ r ∈ c.rules, r.validate = .ok ())
    (h : c.catalogue = .ok rules) (l : Language) : ∀ r ∈ rules.rulesFor l, r.Sound := by
  intro r hr
  obtain ⟨added, hadded, hbehind⟩ := exists_added h l
  rw [hbehind, List.mem_append] at hr
  rcases hr with hr | hr
  · exact sound_of_mem_builtin hr
  · obtain ⟨custom, hcustom, hcompile⟩ := exists_of_mem_right hadded hr
    exact CustomRule.sound_of_compile (hvalid custom (List.mem_filter.mp hcustom).1) hcompile

/-- With the rules of a configuration no defect is lost. -/
lemma builtin_errors_prefix (h : c.catalogue = .ok rules) (s s' : Scoring) (code name : String) :
    ((⟨.builtin, s'⟩ : Analyzer).analyze code name).errors <+:
      ((⟨rules, s⟩ : Analyzer).analyze code name).errors := by
  cases hname : Language.parse? name with
  | none =>
    rw [Analyzer.errors_analyze_unknown _ hname]
    exact List.nil_prefix
  | some l =>
    obtain ⟨added, -, hbehind⟩ := exists_added h l
    rw [errors_analyze_added hbehind hname s s' code]
    exact List.prefix_append _ _

/-- A configuration that is found valid can be used for every analysis. It has a catalogue and
globs, no score is above 100 or above that of the built-in rules alone, and every defect has a line
of a text and the name of a rule, of which there is one at most for each rule of the language. -/
theorem validate_safe {c : Config} (h : c.validate = .ok ()) :
    ∃ rules globs, c.catalogue = .ok rules ∧ c.excluded = .ok globs ∧
      ∀ code name : String,
        ((⟨rules, c.scoring⟩ : Analyzer).analyze code name).codeQuality ≤ 100 ∧
        (∀ d ∈ ((⟨rules, c.scoring⟩ : Analyzer).analyze code name).errors,
          1 ≤ d.line ∧ isBlankText d.rule = false) ∧
        ((⟨rules, c.scoring⟩ : Analyzer).analyze code name).errors.length ≤
          (rules.lookup name).length ∧
        ((⟨rules, c.scoring⟩ : Analyzer).analyze code name).codeQuality ≤
          ((⟨.builtin, c.scoring⟩ : Analyzer).analyze code name).codeQuality := by
  obtain ⟨hscoring, hvalid, globs, hglobs⟩ := validate_parts h
  obtain ⟨rules, hrules⟩ := catalogue_of_rules hvalid
  refine ⟨rules, globs, hrules, hglobs, fun code name => ⟨?_, ?_, ?_, ?_⟩⟩
  · exact Scoring.score_le hscoring _
  · exact Analyzer.sound_errors (sound_of_mem_rulesFor hvalid hrules)
  · exact Analyzer.length_errors_le _ code name
  · have hprefix := builtin_errors_prefix hrules c.scoring c.scoring code name
    exact Scoring.score_antitone hscoring hprefix.length_le

/-- A valid configuration that asks for everything, with the worst scoring that there is. -/
def strictConfig : Config where
  scoring := { cleanScore := 100, baseline := 100, penalty := 255 }
  minQuality := some 100
  excludedPaths := ["**/dist/**"]
  rules := [
    { id := " .", language := " c++\n", pattern := "^|TODO", message := "Starts somehow" },
    { id := "tabs", language := "C", pattern := "\t+", message := "Tab", line := some 1 }]

/-- The rule that always finds something is one more than the built-in ones. -/
theorem validate_safe_strict :
    strictConfig.validate = .ok () ∧
    ∃ rules globs, strictConfig.catalogue = .ok rules ∧ strictConfig.excluded = .ok globs ∧
      let strict := (⟨rules, strictConfig.scoring⟩ : Analyzer).analyze "cout << 1;" "CPP"
      strict.codeQuality ≤ 100 ∧
      (∀ d ∈ strict.errors, 1 ≤ d.line ∧ isBlankText d.rule = false) ∧
      strict.errors.length ≤ (rules.lookup "CPP").length ∧
      strict.codeQuality ≤
        ((⟨.builtin, strictConfig.scoring⟩ : Analyzer).analyze "cout << 1;" "CPP").codeQuality := by
  have hvalid : strictConfig.validate = .ok () := by decide +kernel
  obtain ⟨rules, globs, hrules, hglobs, hanalysis⟩ := validate_safe hvalid
  exact ⟨hvalid, rules, globs, hrules, hglobs, hanalysis "cout << 1;" "CPP"⟩

end Config

end SnippetLint
