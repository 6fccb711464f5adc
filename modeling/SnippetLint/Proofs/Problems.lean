import SnippetLint.Proofs.Layering
import SnippetLint.Proofs.WhiteSpace

/-!
# What is wrong with a configuration

All that is wrong with a configuration can be listed, each problem by itself and in the order in
which it is looked for: `Config.problems`. A configuration without problems is one that can be used
(`Config.problems_eq_nil_iff`).

The checks of a configuration stop at the first problem. This is said of a single check and of
checks one after another by `Reports`, so what a configuration is refused for is found check by
check: `Scoring.reports_validate`, `CustomRule.reports_compile`, `CustomRule.reports_validate`,
`reports_compileGlobs`, and with these `Config.reports_validate`. The catalogue of a configuration
reports from the same list of problems, which is why it fails where the validation fails.
-/

namespace SnippetLint

/-! ## Checks and the problems that they report -/

section Reports

variable {ε ε' α β : Type} {x : Except ε α} {problems problems' : List ε}

/-- A check succeeds if there is no problem, and otherwise fails with the first one. -/
def Reports (check : Except ε α) (problems : List ε) : Prop :=
  match check with
  | .ok _ => problems = []
  | .error e => problems.head? = some e

/-- A check fails with the first of its problems. -/
lemma Reports.eq_error_iff (h : Reports x problems) (e : ε) :
    x = .error e ↔ problems.head? = some e := by
  cases x with
  | ok a => simp [show problems = [] from h]
  | error e' => simp [show problems.head? = some e' from h]

/-- A check succeeds if it has no problem. -/
lemma Reports.exists_ok_iff (h : Reports x problems) : (∃ a, x = .ok a) ↔ problems = [] := by
  cases x with
  | ok a => simp [show problems = [] from h]
  | error e =>
    have hne : problems ≠ [] := by
      rintro rfl
      cases (show ([] : List ε).head? = some e from h)
    simp [hne]

lemma Reports.mapError (h : Reports x problems) (f : ε → ε') :
    Reports (x.mapError f) (problems.map f) := by
  cases x with
  | ok a => exact List.map_eq_nil_iff.mpr h
  | error e =>
    have hhead : problems.head? = some e := h
    show (problems.map f).head? = some (f e)
    rw [List.head?_map, hhead, Option.map_some]

lemma Reports.map (h : Reports x problems) (f : α → β) : Reports (x.map f) problems := by
  cases x <;> exact h

/-- One check after another reports the problems of the one before those of the other. -/
lemma Reports.bind (h : Reports x problems) {f : α → Except ε β}
    (hf : ∀ a, x = .ok a → Reports (f a) problems') :
    Reports (x >>= f) (problems ++ problems') := by
  cases x with
  | ok a =>
    rw [show problems = [] from h]
    exact hf a rfl
  | error e =>
    have hhead : problems.head? = some e := h
    show (problems ++ problems').head? = some e
    rw [List.head?_append, hhead, Option.some_or]

variable {f : α → Except ε β} {problemsOf : α → List ε}

/-- The checks of a list report the problems of all its members in turn. -/
lemma reports_mapM {as : List α} (h : ∀ a ∈ as, Reports (f a) (problemsOf a)) :
    Reports (as.mapM f) (as.flatMap problemsOf) := by
  induction as with
  | nil => exact rfl
  | cons a as ih =>
    have hrest := ih fun a' ha' => h a' (List.mem_cons_of_mem a ha')
    rw [List.mapM_cons, List.flatMap_cons]
    refine (h a List.mem_cons_self).bind fun b _ => ?_
    rw [← List.append_nil (as.flatMap problemsOf)]
    exact hrest.bind fun bs _ => rfl

lemma reports_forM {f : α → Except ε Unit} {as : List α}
    (h : ∀ a ∈ as, Reports (f a) (problemsOf a)) :
    Reports (as.forM f) (as.flatMap problemsOf) := by
  induction as with
  | nil => exact rfl
  | cons a as ih =>
    have hrest := ih fun a' ha' => h a' (List.mem_cons_of_mem a ha')
    rw [List.flatMap_cons]
    exact (h a List.mem_cons_self).bind fun _ _ => hrest

end Reports

/-- The reason for which a step fails, if it does. -/
def failures {ε α : Type} : Except ε α → List ε
  | .ok _ => []
  | .error e => [e]

/-- By itself, a step has the problem that it fails with. -/
lemma reports_failures {ε α : Type} (x : Except ε α) : Reports x (failures x) := by
  cases x <;> exact rfl

/-! ## Problems -/

/-- What is wrong with scoring parameters. -/
def Scoring.problems (s : Scoring) : List ScoringError :=
  (if 100 < s.cleanScore then [.cleanScoreTooHigh s.cleanScore] else []) ++
    if s.cleanScore < s.baseline then [.baselineTooHigh s.baseline s.cleanScore] else []

namespace CustomRule

/-- What keeps a rule from being compiled: its language, then its pattern, then its line. -/
def problems (r : CustomRule) : List RuleError :=
  (if Language.parse? r.language = none then [.unknownLanguage r.id r.language] else []) ++
    (failures (Pattern.compile r.pattern)).map (.badPattern r.id r.pattern) ++
    if r.line = some 0 then [.zeroLine r.id] else []

/-- What is wrong with a rule: first its id, then all else. -/
def allProblems (r : CustomRule) : List ConfigError :=
  (if trimmed r.id = "" then [.blankId r.pattern] else []) ++ r.problems.map .rule

end CustomRule

namespace Config

/-- What is wrong with the least quality of a configuration. -/
def minQualityProblems (c : Config) : List ConfigError :=
  match c.minQuality with
  | some n => if 100 < n then [.minQualityTooHigh n] else []
  | none => []

/-- What is wrong with the globs of a configuration, one by one. -/
def globProblems (c : Config) : List ConfigError :=
  c.excludedPaths.flatMap fun glob => (failures (Glob.compile glob)).map (.excludedPath glob)

/-- The globs of a configuration that are valid by themselves. -/
def validGlobs (c : Config) : List Glob.Matcher :=
  c.excludedPaths.filterMap fun glob => (Glob.compile glob).toOption

/-- The globs that are valid by themselves can be used together. -/
def SetBuilds (c : Config) : Prop := Glob.Matcher.depthError? c.validGlobs = none

/-- Everything that is wrong with a configuration, in order: the scoring, the least quality, the
rules one by one, the globs one by one, and the set of the globs. -/
def problems (c : Config) : List ConfigError :=
  c.scoring.problems.map .scoring ++ c.minQualityProblems ++
    c.rules.flatMap (·.allProblems) ++ c.globProblems ++
    (Glob.Matcher.depthError? c.validGlobs).toList.map .excludedPaths

end Config

/-! ## Each check reports its problems -/

lemma Scoring.reports_validate (s : Scoring) : Reports s.validate s.problems := by
  rw [validate, problems]
  by_cases hclean : 100 < s.cleanScore
  · rw [if_pos hclean, if_pos hclean]
    exact rfl
  · rw [if_neg hclean, if_neg hclean]
    by_cases hbaseline : s.cleanScore < s.baseline
    · rw [if_pos hbaseline, if_pos hbaseline]
      exact rfl
    · rw [if_neg hbaseline, if_neg hbaseline]
      exact rfl

namespace CustomRule

/-- A rule is refused for its language, then for its pattern, then for its line. -/
lemma reports_compile (r : CustomRule) : Reports r.compile r.problems := by
  rw [compile, problems]
  cases Language.parse? r.language with
  | none => exact rfl
  | some language =>
    cases Pattern.compile r.pattern with
    | error reason => exact rfl
    | ok regex =>
      rcases r.line with _ | _ | line
      · exact rfl
      · exact rfl
      · exact rfl

lemma reports_validate (r : CustomRule) : Reports r.validate r.allProblems := by
  rw [validate, allProblems]
  by_cases hid : trimmed r.id = ""
  · rw [if_pos ((isBlankText_iff_trimmed r.id).mpr hid), if_pos hid]
    exact rfl
  · rw [if_neg fun hblank => hid ((isBlankText_iff_trimmed r.id).mp hblank), if_neg hid,
      List.nil_append]
    have hcompile := r.reports_compile.mapError ConfigError.rule
    cases hresult : r.compile with
    | ok entry =>
      rw [hresult] at hcompile
      exact hcompile
    | error reason =>
      rw [hresult] at hcompile
      exact hcompile

end CustomRule

namespace Config

/-- Globs that are compiled one by one are the valid ones. -/
lemma validGlobs_of_mapM {c : Config} {globs : List Glob.Matcher}
    (h : (c.excludedPaths.mapM fun glob =>
      (Glob.compile glob).mapError (ConfigError.excludedPath glob)) = .ok globs) :
    c.validGlobs = globs := by
  have hglobs := mapM_eq_ok.mp h
  -- From here on the paths are any list.
  clear h
  rw [validGlobs]
  generalize c.excludedPaths = paths at hglobs
  induction hglobs with
  | nil => rfl
  | @cons glob compiled paths globs hglob _ ih =>
    have hcompile : (Glob.compile glob).toOption = some compiled := by
      cases hresult : Glob.compile glob with
      | ok found =>
        rw [hresult] at hglob
        obtain rfl : found = compiled := Except.ok.inj hglob
        rfl
      | error reason =>
        rw [hresult] at hglob
        cases hglob
    rw [List.filterMap_cons, hcompile, ih]

/-- Globs are refused one by one, and then for all of them together. -/
lemma reports_excluded (c : Config) :
    Reports c.excluded (c.globProblems ++
      (Glob.Matcher.depthError? c.validGlobs).toList.map .excludedPaths) := by
  rw [excluded, compileGlobs]
  refine (reports_mapM fun glob _ => (reports_failures _).mapError _).bind fun globs hglobs => ?_
  rw [← validGlobs_of_mapM hglobs]
  cases Glob.Matcher.depthError? c.validGlobs <;> exact rfl

/-- The validation of a configuration reports all that is wrong with it. -/
lemma reports_validate (c : Config) : Reports c.validate c.problems := by
  -- What is left to check behind the minimum, whether there is one or not.
  have hrest : Reports (c.rules.forM CustomRule.validate >>= fun _ => discard c.excluded)
      (c.rules.flatMap (·.allProblems) ++ (c.globProblems ++
        (Glob.Matcher.depthError? c.validGlobs).toList.map .excludedPaths)) :=
    (reports_forM fun r _ => r.reports_validate).bind fun _ _ => c.reports_excluded.map _
  rw [validate, problems, List.append_assoc, List.append_assoc, List.append_assoc]
  refine (c.scoring.reports_validate.mapError _).bind fun _ _ => ?_
  rw [minQualityProblems]
  cases c.minQuality with
  | none => exact hrest
  | some n =>
    by_cases hn : 100 < n
    · simp only [if_pos hn]
      exact rfl
    · simp only [if_neg hn]
      exact hrest

/-- The catalogue of a configuration reports what keeps its rules from being compiled. -/
lemma reports_catalogue (c : Config) :
    Reports c.catalogue ((c.rules.flatMap (·.problems)).map .rule) :=
  ((reports_mapM fun r _ => r.reports_compile).mapError _).map _

end Config

/-! ## Configurations that can be used -/

/-- The reasons that concern a single rule. -/
def ConfigError.IsOfRule : ConfigError → Prop
  | .blankId _ | .rule _ => True
  | _ => False

/-- A rule that can be used. -/
structure CustomRule.Usable (r : CustomRule) : Prop where
  id : trimmed r.id ≠ ""
  language : ∃ l, Language.parse? r.language = some l
  pattern : ∃ regex, Pattern.compile r.pattern = .ok regex
  line : r.line ≠ some 0

/-- A configuration all parts of which can be used, each by itself. -/
structure Config.Usable (c : Config) : Prop where
  cleanScore : c.scoring.cleanScore ≤ 100
  baseline : c.scoring.baseline ≤ c.scoring.cleanScore
  minQuality : ∀ n ∈ c.minQuality, n ≤ 100
  rules : ∀ r ∈ c.rules, r.Usable
  excludedPaths : ∀ glob ∈ c.excludedPaths, ∃ matcher, Glob.compile glob = .ok matcher

lemma failures_eq_nil_iff {ε α : Type} {x : Except ε α} : failures x = [] ↔ ∃ a, x = .ok a := by
  cases x <;> simp [failures]

/-- Scoring parameters are usable if the score of clean code is a percentage and the baseline is not
above it. -/
lemma Scoring.problems_eq_nil_iff (s : Scoring) :
    s.problems = [] ↔ s.cleanScore ≤ 100 ∧ s.baseline ≤ s.cleanScore := by
  simp only [problems, List.append_eq_nil_iff, ite_eq_right_iff, reduceCtorEq, imp_false,
    UInt8.not_lt]

namespace CustomRule

lemma problems_eq_nil_iff (r : CustomRule) :
    r.problems = [] ↔ (∃ l, Language.parse? r.language = some l) ∧
      (∃ regex, Pattern.compile r.pattern = .ok regex) ∧ r.line ≠ some 0 := by
  simp only [problems, List.append_eq_nil_iff, ite_eq_right_iff, reduceCtorEq, imp_false,
    List.map_eq_nil_iff, failures_eq_nil_iff, ← ne_eq, Option.ne_none_iff_exists', and_assoc]

/-- A rule without problems is one that can be used. -/
lemma allProblems_eq_nil_iff (r : CustomRule) : r.allProblems = [] ↔ r.Usable := by
  rw [allProblems, List.append_eq_nil_iff, List.map_eq_nil_iff, problems_eq_nil_iff]
  simp only [ite_eq_right_iff, reduceCtorEq, imp_false]
  constructor
  · intro h
    obtain ⟨hid, hlanguage, hpattern, hline⟩ := h
    exact ⟨hid, hlanguage, hpattern, hline⟩
  · intro h
    exact ⟨h.id, h.language, h.pattern, h.line⟩

end CustomRule

namespace Config

lemma minQualityProblems_eq_nil_iff (c : Config) :
    c.minQualityProblems = [] ↔ ∀ n ∈ c.minQuality, n ≤ 100 := by
  rw [minQualityProblems]
  cases c.minQuality with
  | none => simp
  | some n => simp [UInt8.not_lt]

/-- There is nothing wrong with a configuration if it can be used. -/
lemma problems_eq_nil_iff (c : Config) : c.problems = [] ↔ c.Usable ∧ c.SetBuilds := by
  have hset : (Glob.Matcher.depthError? c.validGlobs).toList = [] ↔ c.SetBuilds := by
    rw [SetBuilds]
    cases Glob.Matcher.depthError? c.validGlobs <;> simp
  simp only [problems, globProblems, List.append_eq_nil_iff, List.map_eq_nil_iff, hset,
    Scoring.problems_eq_nil_iff, minQualityProblems_eq_nil_iff, List.flatMap_eq_nil_iff,
    CustomRule.allProblems_eq_nil_iff, failures_eq_nil_iff]
  constructor
  · intro h
    obtain ⟨⟨⟨⟨⟨hclean, hbaseline⟩, hmin⟩, hrules⟩, hglobs⟩, hbuilds⟩ := h
    exact ⟨⟨hclean, hbaseline, hmin, hrules, hglobs⟩, hbuilds⟩
  · intro h
    obtain ⟨husable, hbuilds⟩ := h
    exact ⟨⟨⟨⟨⟨husable.cleanScore, husable.baseline⟩, husable.minQuality⟩, husable.rules⟩,
      husable.excludedPaths⟩, hbuilds⟩

/-- If nothing else is wrong before the rules, and every rule has an id, the catalogue cannot be
made for the reason for which the configuration is refused, as long as that is a rule. -/
lemma catalogue_eq_error_iff_validate {c : Config} (hscoring : c.scoring.problems = [])
    (hmin : c.minQualityProblems = []) (hid : ∀ r ∈ c.rules, trimmed r.id ≠ "") (e : ConfigError) :
    c.catalogue = .error e ↔ c.validate = .error e ∧ e.IsOfRule := by
  have hrules : c.rules.flatMap (·.allProblems) = (c.rules.flatMap (·.problems)).map .rule := by
    rw [List.map_flatMap, List.flatMap_def, List.flatMap_def]
    refine congrArg List.flatten (List.map_congr_left fun r hr => ?_)
    rw [CustomRule.allProblems, if_neg (hid r hr), List.nil_append]
  rw [c.reports_catalogue.eq_error_iff, c.reports_validate.eq_error_iff, problems, hscoring, hmin,
    List.map_nil, List.nil_append, List.nil_append, hrules, List.append_assoc, List.head?_append]
  cases hhead : ((c.rules.flatMap (·.problems)).map ConfigError.rule).head? with
  | some e' =>
    obtain ⟨reason, -, rfl⟩ := List.mem_map.mp (List.mem_of_head? hhead)
    rw [Option.some_or, Option.some.injEq]
    constructor
    · rintro rfl
      exact ⟨rfl, trivial⟩
    · exact fun h => h.1
  | none =>
    -- What comes after the rules is no reason of a rule.
    rw [Option.none_or]
    refine iff_of_false (by simp) ?_
    rintro ⟨hglob, hrule⟩
    obtain hmem | hmem := List.mem_append.mp (List.mem_of_head? hglob)
    · obtain ⟨glob, -, hfailure⟩ := List.mem_flatMap.mp hmem
      obtain ⟨reason, -, rfl⟩ := List.mem_map.mp hfailure
      exact hrule
    · obtain ⟨reason, -, rfl⟩ := List.mem_map.mp hmem
      exact hrule

/-- A configuration is accepted if and only if every part of it can be used by itself, and its globs
together; otherwise it is refused for the first of the problems that it has. If scoring and least
quality are as they should be and every rule has an id, the catalogue fails exactly if a rule is
what the configuration is refused for, and for the same reason. -/
theorem validate_exact (c : Config) :
    (c.validate = .ok () ↔ c.Usable ∧ c.SetBuilds) ∧
    (∀ e, c.validate = .error e ↔ c.problems.head? = some e) ∧
    (c.scoring.cleanScore ≤ 100 → c.scoring.baseline ≤ c.scoring.cleanScore →
      (∀ n ∈ c.minQuality, n ≤ 100) → (∀ r ∈ c.rules, trimmed r.id ≠ "") →
      ∀ e, c.catalogue = .error e ↔ c.validate = .error e ∧ e.IsOfRule) := by
  refine ⟨?_, c.reports_validate.eq_error_iff, fun hclean hbaseline hmin hid e => ?_⟩
  · rw [← problems_eq_nil_iff, ← c.reports_validate.exists_ok_iff]
    exact ⟨fun h => ⟨(), h⟩, fun ⟨_, h⟩ => h⟩
  · refine catalogue_eq_error_iff_validate ?_ ?_ hid e
    · exact c.scoring.problems_eq_nil_iff.mpr ⟨hclean, hbaseline⟩
    · exact c.minQualityProblems_eq_nil_iff.mpr hmin

/-- A configuration with much that is wrong. -/
def wrongConfig : Config where
  minQuality := some 100
  excludedPaths := ["[", "*.js"]
  rules := [
    { id := "tabs", language := "C", pattern := "\t+", message := "Tab", line := some 1 },
    { id := "todo", language := "C", pattern := "(TODO", message := "To do", line := some 0 },
    { id := "fun", language := "Haskell", pattern := "fun", message := "Function" }]

/-- The pattern of the second rule is what it is refused for, and what there is no catalogue for. -/
theorem validate_exact_wrong :
    let reason : ConfigError := .rule (.badPattern "todo" "(TODO" .unclosedGroup)
    wrongConfig.scoring.cleanScore ≤ 100 ∧
    wrongConfig.scoring.baseline ≤ wrongConfig.scoring.cleanScore ∧
    (∀ n ∈ wrongConfig.minQuality, n ≤ 100) ∧ (∀ r ∈ wrongConfig.rules, trimmed r.id ≠ "") ∧
    wrongConfig.problems.head? = some reason ∧ wrongConfig.problems.length = 4 ∧
    wrongConfig.validate = .error reason ∧ wrongConfig.catalogue = .error reason := by
  intro reason
  obtain ⟨-, hfirst, hrules⟩ := validate_exact wrongConfig
  have hclean : wrongConfig.scoring.cleanScore ≤ 100 := by decide
  have hbaseline : wrongConfig.scoring.baseline ≤ wrongConfig.scoring.cleanScore := by decide
  have hmin : ∀ n ∈ wrongConfig.minQuality, n ≤ 100 := by decide +kernel
  have hid : ∀ r ∈ wrongConfig.rules, trimmed r.id ≠ "" := by decide +kernel
  have hhead : wrongConfig.problems.head? = some reason := by decide +kernel
  have hlength : wrongConfig.problems.length = 4 := by decide +kernel
  have hvalidate : wrongConfig.validate = .error reason := (hfirst reason).mpr hhead
  have hcatalogue : wrongConfig.catalogue = .error reason :=
    (hrules hclean hbaseline hmin hid reason).mpr ⟨hvalidate, trivial⟩
  exact ⟨hclean, hbaseline, hmin, hid, hhead, hlength, hvalidate, hcatalogue⟩

end Config

end SnippetLint
