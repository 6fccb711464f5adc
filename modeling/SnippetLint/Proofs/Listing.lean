import SnippetLint.Proofs.Row
import SnippetLint.Proofs.Verdict

/-!
# The list of rules and the analyses

The list of rules and an analysis come to their rules in different ways: the one goes through all
languages that there are, the other asks for the language that a text names. This file says that
they agree. With the same configuration both give up, for the same reason, or neither does
(`answer_rules`, `answer_analyze`); and then the rows of a language are those of the rules that are
tried on a text of that language, so that the defects of the text are found again among the rows
(`exists_announced`).
-/

namespace SnippetLint

/-! ## Reasons to give up -/

/-- Whether a run gives up because of its configuration. -/
def Failure.isAboutConfig : Failure → Bool
  | unreadableConfig _ _ | malformedConfig _ _ | invalidConfig _ => true
  | _ => false

lemma Unconfigured.isAboutConfig {w : World} {explicit : Option String} {failure : Failure}
    (h : Unconfigured w explicit failure) : failure.isAboutConfig = true := by
  cases h <;> rfl

namespace Input

variable {files : FileSystem} {language : Option String} {excluded : List Glob.Matcher}

lemma not_aboutConfig_of_ofPath {path : String} {failure : Failure}
    (h : ofPath files language excluded path = .error failure) :
    failure.isAboutConfig = false := by
  unfold ofPath at h
  split at h
  · cases h
    rfl
  · cases h
  · cases h

/-- Paths have nothing to do with the configuration. -/
lemma not_aboutConfig_of_ofPathsAfter {taken : Bool} {paths : List String} {failure : Failure}
    (h : ofPathsAfter files language excluded taken paths = .error failure) :
    failure.isAboutConfig = false := by
  induction paths generalizing taken with
  | nil => cases h
  | cons path paths ih =>
    unfold ofPathsAfter at h
    split at h
    · -- The standard input counts once, and then it needs a language.
      split at h
      · exact ih h
      · split at h
        · cases h
          rfl
        · obtain hrest | ⟨_, -, hpure⟩ := bind_eq_error.mp h
          · exact ih hrest
          · cases hpure
    · obtain hpath | ⟨_, -, h⟩ := bind_eq_error.mp h
      · exact not_aboutConfig_of_ofPath hpath
      · obtain hrest | ⟨_, -, hpure⟩ := bind_eq_error.mp h
        · exact ih hrest
        · cases hpure

end Input

namespace Run

variable {w : World} {input : Input} {assistant : Assistant}

lemma not_aboutConfig_of_readInput {failure : Failure} (h : readInput w input = .error failure) :
    failure.isAboutConfig = false := by
  rw [readInput] at h
  split at h
  · split at h
    · cases h
    · cases h
      rfl
  · cases hread : w.files.read input.path with
    | ok text =>
      rw [hread] at h
      cases h
    | error reason =>
      rw [hread] at h
      cases h
      rfl

lemma not_aboutConfig_of_analyzeInput {failure : Failure}
    (h : (analyzeInput w assistant input).2 = .error failure) :
    failure.isAboutConfig = false := by
  cases hread : readInput w input with
  | error reason =>
    rw [analyzeInput, hread] at h
    cases h
    exact not_aboutConfig_of_readInput hread
  | ok text =>
    obtain ⟨content, hbytes, -⟩ := hasText_of_readInput hread
    obtain ⟨found, -, hfound⟩ | ⟨failure', hfails, hfailure⟩ := analyzeInput_cases assistant hbytes
    · cases hfound.symm.trans h
    · obtain rfl := Except.error.inj (hfailure.symm.trans h)
      cases hfails with
      | notText => split <;> rfl
      | blank => rfl

end Run

/-! ## The two answers -/

/-- The languages that are listed: all of them, or the one that is asked for if it is known. -/
def RulesArguments.listed (r : RulesArguments) : List Language :=
  match r.language with
  | none => Language.all
  | some name => (Language.parse? name).toList

/-- A language is listed unless another one, or none, is asked for. -/
lemma RulesArguments.mem_listed (r : RulesArguments) (l : Language) :
    l ∈ r.listed ↔ ∀ name ∈ r.language, Language.parse? name = some l := by
  rw [listed]
  cases r.language with
  | none => simp [Language.mem_all]
  | some name => simp

namespace Run

variable {w : World} {r : RulesArguments} {a : AnalyzeArguments} {config : Config}
  {rules : Catalogue} {inputs : List Input}

lemma not_aboutConfig_of_verdict {failure : Failure}
    (h : verdict w a config rules inputs = .error failure) : failure.isAboutConfig = false := by
  unfold verdict at h
  split at h
  · cases h
  · cases hfound : inputs.mapM fun input =>
        (analyzeInput w ⟨⟨rules, config.scoring⟩, .bundled⟩ input).2 with
    | ok found =>
      rw [hfound] at h
      cases h
    | error reason =>
      rw [hfound] at h
      obtain ⟨-, input, -, -, -, hinput⟩ := mapM_eq_error.mp hfound
      cases h
      exact not_aboutConfig_of_analyzeInput hinput

/-- What an analysis prints are the reports of its inputs, and all of them count. -/
lemma output_of_verdict {text : StyledText} {result : Answer}
    (h : verdict w a config rules inputs = .ok (text, result)) :
    inputs = [] ∧ text = [] ∧ result.passed = true ∨ inputs ≠ [] ∧ ∃ found,
      List.Forall₂ (Examined w ⟨rules, config.scoring⟩) inputs found ∧
      text = formatReport a.format (found.filterMap id) (effectiveMinimum a config) ∧
      result.passed = (found.filterMap id).all (·.passes (effectiveMinimum a config)) := by
  unfold verdict at h
  split at h
  · next hempty =>
    cases h
    exact .inl ⟨List.isEmpty_iff.mp hempty, rfl, rfl⟩
  · next hsome =>
    have hnonempty : inputs ≠ [] := fun hempty => hsome (List.isEmpty_iff.mpr hempty)
    cases hfound : inputs.mapM fun input =>
        (analyzeInput w ⟨⟨rules, config.scoring⟩, .bundled⟩ input).2 with
    | error reason =>
      rw [hfound] at h
      cases h
    | ok found =>
      rw [hfound] at h
      cases h
      exact .inr ⟨hnonempty, found, mapM_analyzeInput_eq_ok hfound, rfl, rfl⟩

/-- With a configuration, an analysis does not give up because of it, and it answers only if
all that it needs is there. -/
lemma answer_analyze (hformat : a.format = "pretty" ∨ a.format = "json")
    (hconfig : Configured w a.config config) (hrules : config.catalogue = .ok rules) :
    (∃ failure, answer w (.analyze a) = .error failure ∧ failure.isAboutConfig = false) ∨
      ∃ inputs result, answer w (.analyze a) = .ok result ∧ Ready w a config rules inputs ∧
        verdict w a config rules inputs = .ok result := by
  by_cases hminimum : effectiveMinimum a config ≤ 100
  · obtain ⟨globs, hglobs⟩ := hconfig.excluded
    have hanswer := Delivers.answer (c := .analyze a)
      (analyze_configured hformat hconfig hminimum hrules hglobs)
    rw [hanswer]
    cases hinputs : Input.ofPaths w.files a.language globs a.paths with
    | error failure => exact .inl ⟨failure, rfl, Input.not_aboutConfig_of_ofPathsAfter hinputs⟩
    | ok inputs =>
      have hready : Ready w a config rules inputs :=
        ⟨hformat, hconfig, hminimum, hrules, globs, hglobs, hinputs⟩
      cases hverdict : verdict w a config rules inputs with
      | error failure => exact .inl ⟨failure, hverdict, not_aboutConfig_of_verdict hverdict⟩
      | ok result => exact .inr ⟨inputs, result, hverdict, hready, hverdict⟩
  · rw [UInt8.not_le] at hminimum
    have hanswer := Yields.answer_error (c := .analyze a)
      (analyze_minQualityTooHigh hformat hconfig hminimum)
    exact .inl ⟨_, hanswer, rfl⟩

/-- An analysis answers only if all that it needs is there. -/
lemma ready_of_answer {result : StyledText × Answer} (h : answer w (.analyze a) = .ok result) :
    ∃ config rules inputs, Ready w a config rules inputs ∧
      verdict w a config rules inputs = .ok result := by
  have hformat : a.format = "pretty" ∨ a.format = "json" := by
    by_contra hformat
    cases (Yields.answer_error (c := .analyze a) (analyze_unknownFormat hformat)).symm.trans h
  obtain ⟨config, hconfig⟩ | ⟨failure, hbad⟩ := configured_or_unconfigured w a.config
  · obtain ⟨rules, hrules⟩ := hconfig.catalogue
    obtain ⟨failure, hfailure, -⟩ | ⟨inputs, result', hresult, hready, hverdict⟩ :=
      answer_analyze hformat hconfig hrules
    · cases hfailure.symm.trans h
    · obtain rfl := Except.ok.inj (hresult.symm.trans h)
      exact ⟨config, rules, inputs, hready, hverdict⟩
  · cases (Yields.answer_error (c := .analyze a) (analyze_unconfigured hformat hbad)).symm.trans h

/-- With a configuration there is a list, and it has the lines of a section for each language. -/
lemma answer_rules (hconfig : Configured w r.config config)
    (hrules : config.catalogue = .ok rules) :
    ∃ listing, answer w (.rules r) = .ok (listing, {}) ∧
      (r.listed ≠ [] → ∀ color, listing.render color =
        String.join ((r.listed.flatMap (rulesSection rules)).map (· ++ "\n"))) := by
  have hanswer := Delivers.answer (c := .rules r)
    ((silent_loadConfig w r.config).delivers_bind (loadConfig_yields hconfig)
      ((silent_attempt _ _).delivers_bind (yields_attempt_ok hrules) (delivers_print _ _)))
  refine ⟨_, hanswer, fun hlisted color => ?_⟩
  rw [StyledText.render_textOfLines]
  rw [RulesArguments.listed] at hlisted ⊢
  cases hlanguage : r.language with
  | none => rfl
  | some name =>
    rw [hlanguage] at hlisted
    cases hname : Language.parse? name with
    | none => simp [hname] at hlisted
    | some l => simp [hname]

/-- A list fails for the same reason as an analysis that comes to its configuration. -/
lemma answer_analyze_iff_rules (h : r.config = a.config) (failure : Failure) :
    answer w (.analyze a) = .error failure ∧ failure.isAboutConfig = true ↔
      (a.format = "pretty" ∨ a.format = "json") ∧ answer w (.rules r) = .error failure := by
  by_cases hformat : a.format = "pretty" ∨ a.format = "json"
  · obtain ⟨config, hconfig⟩ | ⟨failure', hbad⟩ := configured_or_unconfigured w a.config
    · -- Neither of them gives up because of a configuration that can be used.
      obtain ⟨rules, hrules⟩ := hconfig.catalogue
      obtain ⟨listing, hlisting, -⟩ := answer_rules (h ▸ hconfig) hrules
      rw [hlisting]
      obtain ⟨other, hanswer, habout⟩ | ⟨_, result, hanswer, -⟩ :=
        answer_analyze hformat hconfig hrules
      · simp only [hanswer, Except.error.injEq, reduceCtorEq, and_false, iff_false]
        rintro ⟨rfl, htrue⟩
        simp [habout] at htrue
      · simp [hanswer]
    · have hanalyze := Yields.answer_error (c := .analyze a) (analyze_unconfigured hformat hbad)
      have hrules := Yields.answer_error (c := .rules r)
        (loadConfig_fails (h ▸ hbad)).bind_error
      rw [hanalyze, hrules]
      simp only [Except.error.injEq, hformat, true_and, and_iff_left_iff_imp]
      rintro rfl
      exact hbad.isAboutConfig
  · have hanalyze := Yields.answer_error (w := w) (c := .analyze a) (analyze_unknownFormat hformat)
    simp only [hanalyze, hformat, false_and, iff_false, not_and]
    intro hfailure
    obtain rfl := Except.error.inj hfailure
    simp [Failure.isAboutConfig]

end Run

/-! ## Rows and defects -/

/-- The defects of a text are announced by some of the rows of its language, in their order. -/
lemma exists_announced (rules : Catalogue) (s : Scoring) {name : String} {l : Language}
    (hname : Language.parse? name = some l) (code : String) :
    ∃ fired, fired.Sublist ((rules.rulesFor l).map Run.ruleRow) ∧
      List.Forall₂ Row.Announces fired ((⟨rules, s⟩ : Analyzer).analyze code name).errors := by
  rw [Analyzer.errors_analyze]
  split
  · exact ⟨[], List.nil_sublist _, .nil⟩
  · have hfired := Catalogue.detect_forall₂ hname rules code
    have hrows : (((rules.rulesFor l).filter (·.fires code)).map Run.ruleRow).Sublist
        ((rules.rulesFor l).map Run.ruleRow) := List.filter_sublist.map _
    refine ⟨_, hrows, List.forall₂_map_left_iff.mpr ?_⟩
    exact hfired.imp fun r _ htells => (Row.of_ruleRow r).announces htells

namespace Run

/-- The list of rules and an analysis with the same configuration give up because of it together
and for the same reason, unless the analysis gives up even before, over its format. If both answer,
there is a section for each language that is asked for. Each row of a language is that of a rule
which the analysis tries on a text of that language, one after another; and what it reports about
the text is announced by some of the rows, in their order. -/
theorem listing_applied (w : World) (r : RulesArguments) (a : AnalyzeArguments)
    (h : r.config = a.config) :
    (∀ failure, answer w (.analyze a) = .error failure ∧ failure.isAboutConfig = true ↔
      (a.format = "pretty" ∨ a.format = "json") ∧ answer w (.rules r) = .error failure) ∧
    ∀ listing report listed analyzed, answer w (.rules r) = .ok (listing, listed) →
      answer w (.analyze a) = .ok (report, analyzed) →
        ∃ config rules inputs, Ready w a config rules inputs ∧ ∃ rows : Language → List String,
          (∀ l, List.Forall₂ Row.Of (rules.rulesFor l) (rows l)) ∧
          (∀ l, l ∈ r.listed ↔ ∀ name ∈ r.language, Language.parse? name = some l) ∧
          (r.listed ≠ [] → ∀ color, listing.render color = String.join ((r.listed.flatMap fun l =>
            (l.label ++ " (" ++ l.id ++ "):") :: rows l ++ [""]).map (· ++ "\n"))) ∧
          (inputs = [] ∧ report = [] ∨ inputs ≠ [] ∧ ∃ found,
            List.Forall₂ (Examined w ⟨rules, config.scoring⟩) inputs found ∧
            Report.Shows a.format (found.filterMap id) (effectiveMinimum a config) report) ∧
          ∀ (code name : String) (l : Language), Language.parse? name = some l →
            ((⟨rules, config.scoring⟩ : Analyzer).analyze code name).errors =
              (if isBlankText code then [] else (rules.rulesFor l).filterMap (·.defect? code l)) ∧
            ∃ fired, fired.Sublist (rows l) ∧ List.Forall₂ Row.Announces fired
              ((⟨rules, config.scoring⟩ : Analyzer).analyze code name).errors := by
  refine ⟨answer_analyze_iff_rules h, fun listing report listed analyzed hlisting hreport => ?_⟩
  obtain ⟨config, rules, inputs, hready, hverdict⟩ := ready_of_answer hreport
  obtain ⟨listing', hlisting', hprinted⟩ := answer_rules (h ▸ hready.configured) hready.rules
  obtain ⟨rfl, -⟩ := Prod.mk.inj (Except.ok.inj (hlisting'.symm.trans hlisting))
  -- The rows of a language are what is listed for its rules.
  refine ⟨config, rules, inputs, hready, fun l => (rules.rulesFor l).map ruleRow,
    fun l => Row.forall₂_of_map _, r.mem_listed, hprinted, ?_, fun code name l hname => ⟨?_, ?_⟩⟩
  · obtain ⟨hempty, houtput, -⟩ | ⟨hnonempty, found, hexamined, houtput, -⟩ :=
      output_of_verdict hverdict
    · exact .inl ⟨hempty, houtput⟩
    · refine .inr ⟨hnonempty, found, hexamined, ?_⟩
      rw [houtput]
      exact Report.shows_formatReport hready.format _ _
  · rw [Analyzer.errors_analyze, Catalogue.detect_eq hname]
  · exact exists_announced rules config.scoring hname code

/-- A working directory with a configuration, which adds a rule, and with a file to analyze. -/
def configuredFiles : FileSystem where
  root := .directory [
    ("lint.yaml", .file ("rules:\n- id: left-to-do\n  language: PY\n  pattern: TODO\n" ++
      "  message: Left to do\n").toUTF8),
    ("a.py", .file "x = 1 # TODO".toUTF8)]
  workingDirectory := []

/-- The rules that are listed for a language are those that find something in a file of it. -/
theorem listing_applied_python :
    let w : World := ⟨configuredFiles, none, .empty⟩
    let r : RulesArguments := { language := some "py", config := some "lint.yaml" }
    let a : AnalyzeArguments := { paths := ["a.py"], config := some "lint.yaml" }
    r.config = a.config ∧ ∃ listing report listed analyzed,
      answer w (.rules r) = .ok (listing, listed) ∧
      answer w (.analyze a) = .ok (report, analyzed) ∧
      ∃ config rules inputs, Ready w a config rules inputs ∧ ∃ rows,
        List.Forall₂ Row.Of (rules.rulesFor .python) rows ∧
        (∀ color, listing.render color =
          String.join (("Python (python):" :: rows ++ [""]).map (· ++ "\n"))) ∧
        ∃ fired, fired.Sublist rows ∧ List.Forall₂ Row.Announces fired
          ((⟨rules, config.scoring⟩ : Analyzer).analyze "x = 1 # TODO" "python").errors := by
  intro w r a
  have hlisted : r.listed = [.python] := by decide +kernel
  have hlisting : (answer w (.rules r)).isOk = true := by decide +kernel
  have hreport : (answer w (.analyze a)).isOk = true := by decide +kernel
  cases hrules : answer w (.rules r) with
  | error failure =>
    rw [hrules] at hlisting
    cases hlisting
  | ok listing =>
    cases hanalyze : answer w (.analyze a) with
    | error failure =>
      rw [hanalyze] at hreport
      cases hreport
    | ok report =>
      obtain ⟨-, happlied⟩ := listing_applied w r a rfl
      obtain ⟨config, rules, inputs, hready, rows, hrows, -, hprinted, -, hdefects⟩ :=
        happlied _ _ _ _ hrules hanalyze
      have hname : Language.parse? "python" = some .python := by decide +kernel
      rw [hlisted, List.flatMap_singleton] at hprinted
      exact ⟨rfl, _, _, _, _, rfl, rfl, config, rules, inputs, hready, _, hrows .python,
        hprinted (List.cons_ne_nil _ _), (hdefects _ _ _ hname).2⟩

end Run

end SnippetLint
