import SnippetLint.Analysis
import SnippetLint.Config.Basic
import SnippetLint.Proofs.Steps

/-!
# Rules of a configuration behind the built-in ones

A configuration adds its rules to the built-in ones, one after another, and to none of them if one
cannot be compiled. This file says what comes of that:

* `Catalogue.rulesFor_pushAll`: a language gets those of the added rules that are its own, in their
  order and behind what it had, whatever stands between them in the list;
* `CustomRule.compile_eq_ok_iff`: what the rule that is written in a configuration becomes;
* `Config.exists_added`: both together, for the catalogue of a configuration.

So the defects that a configuration's own rules find come behind those that are found without it,
and rules of different languages may change places.
-/

namespace SnippetLint

/-! ## Adding rules to a catalogue -/

namespace Catalogue

/-- Adds some rules, one after another. -/
def pushAll (c : Catalogue) (entries : List (Language × Rule)) : Catalogue :=
  entries.foldl (fun c entry => c.push entry.1 entry.2) c

/-- A language gets those of the added rules that are its own. -/
lemma rulesFor_pushAll (c : Catalogue) (entries : List (Language × Rule)) (l : Language) :
    (c.pushAll entries).rulesFor l = c.rulesFor l ++ (entries.filter (·.1 == l)).map (·.2) := by
  induction entries generalizing c with
  | nil => simp [pushAll]
  | cons entry entries ih =>
    have hstep : c.pushAll (entry :: entries) = (c.push entry.1 entry.2).pushAll entries := rfl
    rw [hstep, ih, List.filter_cons]
    by_cases h : entry.1 = l
    · rw [h, rulesFor_push_self]
      simp
    · rw [rulesFor_push_of_ne c h]
      simp [h]

/-- What is detected depends on the rules of the language only. -/
lemma detect_eq {name : String} {l : Language} (h : Language.parse? name = some l) (c : Catalogue)
    (code : String) : c.detect code name = (c.rulesFor l).filterMap (·.defect? code l) := by
  rw [detect, h]

lemma detect_eq_nil {name : String} (h : Language.parse? name = none) (c : Catalogue)
    (code : String) : c.detect code name = [] := by
  rw [detect, h]

lemma detect_congr {c c' : Catalogue} (h : ∀ l, c.rulesFor l = c'.rulesFor l)
    (code name : String) : c.detect code name = c'.detect code name := by
  cases hname : Language.parse? name with
  | none => rw [detect_eq_nil hname, detect_eq_nil hname]
  | some l => rw [detect_eq hname, detect_eq hname, h]

end Catalogue

/-- An analysis lists what is detected, unless the code is blank. -/
lemma Analyzer.errors_analyze (a : Analyzer) (code name : String) :
    (a.analyze code name).errors =
      if isBlankText code then [] else a.catalogue.detect code name := rfl

/-- A language that is not known has no defects. -/
lemma Analyzer.errors_analyze_unknown (a : Analyzer) {name : String}
    (h : Language.parse? name = none) (code : String) : (a.analyze code name).errors = [] := by
  rw [errors_analyze, Catalogue.detect_eq_nil h, ite_self]

/-- Analyses depend on the rules of each language only. -/
lemma Analyzer.analyze_congr {rules rules' : Catalogue}
    (h : ∀ l, rules.rulesFor l = rules'.rulesFor l) (s : Scoring) (code name : String) :
    (⟨rules, s⟩ : Analyzer).analyze code name = (⟨rules', s⟩ : Analyzer).analyze code name := by
  simp only [analyze, defects, Catalogue.detect_congr h]

/-! ## Rules of a configuration -/

namespace CustomRule

variable {r : CustomRule} {entry : Language × Rule}

/-- The text of a rule names a language. -/
def isFor (l : Language) (r : CustomRule) : Bool := Language.parse? r.language == some l

/-- A rule can be compiled if its language is known, its pattern can be read and its line is not
zero. Then it is the rule that is written, with a pattern to look for. -/
lemma compile_eq_ok_iff : r.compile = .ok entry ↔
    Language.parse? r.language = some entry.1 ∧ r.line ≠ some 0 ∧
      ∃ regex, Pattern.compile r.pattern = .ok regex ∧
        entry.2 = { id := r.id, message := r.message, severity := r.severity,
                    line := r.line.elim .firstMatch .fixed, matcher := .pattern regex } := by
  obtain ⟨l, rule⟩ := entry
  rw [compile]
  cases Language.parse? r.language with
  | none => simp
  | some l' =>
    cases Pattern.compile r.pattern with
    | error reason => simp
    | ok regex =>
      rcases r.line with _ | _ | n <;> simp [eq_comm]

/-- A rule is added for the language that it is for. -/
lemma isFor_of_compile (h : r.compile = .ok entry) (l : Language) :
    r.isFor l = (entry.1 == l) := by
  rw [isFor, (compile_eq_ok_iff.mp h).1]
  rfl

end CustomRule

/-! ## The catalogue of a configuration -/

/-- The same rules, with those of each language in the same order. -/
structure SameOrder (rs rs' : List CustomRule) : Prop where
  perm : rs'.Perm rs
  order : ∀ l, rs'.filter (·.isFor l) = rs.filter (·.isFor l)

/-- Two rules for different languages that stand next to each other may change places. -/
lemma sameOrder_swap {r r' : CustomRule}
    (h : Language.parse? r.language ≠ Language.parse? r'.language) (front back : List CustomRule) :
    SameOrder (front ++ r :: r' :: back) (front ++ r' :: r :: back) := by
  refine ⟨(List.Perm.swap r r' back).append_left front, fun l => ?_⟩
  have hone : ¬ (r.isFor l = true ∧ r'.isFor l = true) := by
    rw [CustomRule.isFor, CustomRule.isFor, beq_iff_eq, beq_iff_eq]
    exact fun hboth => h (hboth.1.trans hboth.2.symm)
  simp only [List.filter_append, List.filter_cons]
  by_cases hr : r.isFor l = true
  · have hr' : ¬ r'.isFor l = true := fun hr' => hone ⟨hr, hr'⟩
    rw [if_neg hr', if_neg hr']
  · rw [if_neg hr, if_neg hr]

namespace Config

variable {c : Config} {rules : Catalogue}

/-- The rules that a configuration adds for a language: its own rules for it, compiled, in the
order in which they are given. -/
def Adds (c : Config) (l : Language) (added : List Rule) : Prop :=
  List.Forall₂ (fun r rule => r.compile = .ok (l, rule)) (c.rules.filter (·.isFor l)) added

lemma catalogue_eq_ok_iff : c.catalogue = .ok rules ↔
    ∃ entries, c.rules.mapM CustomRule.compile = .ok entries ∧
      rules = Catalogue.builtin.pushAll entries := by
  rw [catalogue]
  cases c.rules.mapM CustomRule.compile with
  | error reason => simp [Except.mapError, Except.map]
  | ok entries =>
    simp only [Except.mapError, Except.map, Except.ok.injEq, exists_eq_left']
    exact eq_comm

/-- The first rule that cannot be compiled is the reason why there is no catalogue. -/
lemma catalogue_eq_error_iff {e : ConfigError} : c.catalogue = .error e ↔
    ∃ front r back reason, c.rules = front ++ r :: back ∧
      (∀ x ∈ front, ∃ entry, x.compile = .ok entry) ∧ r.compile = .error reason ∧
      e = .rule reason := by
  have hcompile : c.catalogue = .error e ↔
      ∃ reason, c.rules.mapM CustomRule.compile = .error reason ∧ e = .rule reason := by
    rw [catalogue]
    cases c.rules.mapM CustomRule.compile with
    | error reason => simp [Except.mapError, Except.map, eq_comm]
    | ok entries => simp [Except.mapError, Except.map]
  rw [hcompile]
  simp only [mapM_eq_error]
  constructor
  · intro h
    obtain ⟨reason, ⟨front, r, back, hsplit, hfront, hr⟩, rfl⟩ := h
    exact ⟨front, r, back, reason, hsplit, hfront, hr, rfl⟩
  · intro h
    obtain ⟨front, r, back, reason, hsplit, hfront, hr, rfl⟩ := h
    exact ⟨reason, ⟨front, r, back, hsplit, hfront, hr⟩, rfl⟩

/-- There is a catalogue if every rule can be compiled. -/
lemma exists_catalogue_iff :
    (∃ rules, c.catalogue = .ok rules) ↔ ∀ r ∈ c.rules, ∃ entry, r.compile = .ok entry := by
  rw [← exists_mapM_eq_ok_iff]
  simp only [catalogue_eq_ok_iff]
  constructor
  · intro h
    obtain ⟨_, entries, hentries, -⟩ := h
    exact ⟨entries, hentries⟩
  · intro h
    obtain ⟨entries, hentries⟩ := h
    exact ⟨_, entries, hentries, rfl⟩

/-- There is none if some rule cannot be compiled. -/
lemma exists_error_iff :
    (∃ e, c.catalogue = .error e) ↔ ∃ r ∈ c.rules, ∃ reason, r.compile = .error reason := by
  constructor
  · intro h
    obtain ⟨e, he⟩ := h
    obtain ⟨front, r, back, reason, hsplit, -, hr, -⟩ := catalogue_eq_error_iff.mp he
    exact ⟨r, by simp [hsplit], reason, hr⟩
  · intro h
    obtain ⟨r, hr, reason, hreason⟩ := h
    cases hcatalogue : c.catalogue with
    | error e => exact ⟨e, rfl⟩
    | ok rules =>
      -- With a catalogue, this rule could be compiled too.
      obtain ⟨entry, hentry⟩ := exists_catalogue_iff.mp ⟨rules, hcatalogue⟩ r hr
      cases hreason.symm.trans hentry

/-- Behind the built-in rules of a language stand the rules that a configuration adds for it. -/
lemma exists_added (h : c.catalogue = .ok rules) (l : Language) :
    ∃ added, c.Adds l added ∧ rules.rulesFor l = Catalogue.builtin.rulesFor l ++ added := by
  obtain ⟨entries, hentries, rfl⟩ := catalogue_eq_ok_iff.mp h
  refine ⟨_, ?_, Catalogue.rulesFor_pushAll _ _ _⟩
  have hcompiled := mapM_eq_ok.mp hentries
  have hfilter : List.Forall₂ (fun r entry => CustomRule.compile r = .ok entry)
      (c.rules.filter (·.isFor l)) (entries.filter (·.1 == l)) := by
    refine List.rel_filter (fun r entry hr => ?_) hcompiled
    show r.isFor l = true ↔ (entry.1 == l) = true
    rw [CustomRule.isFor_of_compile hr]
  -- What is left of both lists is for the language, so the first half of an entry is known.
  have hown : ∀ r ∈ c.rules.filter (·.isFor l), r.isFor l = true :=
    fun r hr => (List.mem_filter.mp hr).2
  rw [Adds, List.forall₂_map_right_iff]
  refine ((List.forall₂_and_left _ _).mpr ⟨hown, hfilter⟩).imp fun r entry hr => ?_
  obtain ⟨hfor, hr⟩ := hr
  rw [CustomRule.isFor_of_compile hr, beq_iff_eq] at hfor
  rw [hr, ← hfor]

/-- A configuration adds the same rules whoever asks. -/
lemma Adds.unique {c' : Config} {l : Language} {added added' : List Rule} (h : c.Adds l added)
    (h' : c'.Adds l added')
    (hsame : c'.rules.filter (·.isFor l) = c.rules.filter (·.isFor l)) : added' = added := by
  rw [Adds, hsame] at h'
  refine List.right_unique_forall₂' (fun r rule rule' hrule hrule' => ?_) h' h
  have hentry := Except.ok.inj (hrule.symm.trans hrule')
  exact (Prod.mk.inj hentry).2

/-- Rules of different languages may change places. -/
lemma catalogue_reordered (h : c.catalogue = .ok rules) {reordered : List CustomRule}
    (hsame : SameOrder c.rules reordered) :
    ∃ rules', ({ c with rules := reordered } : Config).catalogue = .ok rules' ∧
      ∀ l, rules'.rulesFor l = rules.rulesFor l := by
  have hcompile := exists_catalogue_iff.mp ⟨rules, h⟩
  have hreordered : ∀ r ∈ reordered, ∃ entry, r.compile = .ok entry :=
    fun r hr => hcompile r (hsame.perm.subset hr)
  obtain ⟨rules', h'⟩ := exists_catalogue_iff (c := { c with rules := reordered }).mpr hreordered
  refine ⟨rules', h', fun l => ?_⟩
  obtain ⟨added, hadded, hrules⟩ := exists_added h l
  obtain ⟨added', hadded', hrules'⟩ := exists_added h' l
  rw [hrules', hrules, hadded.unique hadded' (hsame.order l)]

/-- The defects of the rules that a configuration adds come behind those of the built-in rules. -/
lemma errors_analyze_added {l : Language} {added : List Rule}
    (hrules : rules.rulesFor l = Catalogue.builtin.rulesFor l ++ added) {name : String}
    (hname : Language.parse? name = some l) (s s' : Scoring) (code : String) :
    ((⟨rules, s⟩ : Analyzer).analyze code name).errors =
      ((⟨.builtin, s'⟩ : Analyzer).analyze code name).errors ++
        if isBlankText code then [] else added.filterMap (·.defect? code l) := by
  rw [Analyzer.errors_analyze, Analyzer.errors_analyze]
  cases isBlankText code with
  | true => rfl
  | false =>
    simp only [Bool.false_eq_true, if_false]
    rw [Catalogue.detect_eq hname, Catalogue.detect_eq hname, hrules, List.filterMap_append]

/-- A configuration has a catalogue unless one of its rules cannot be compiled, of which the first
counts. Behind the built-in rules of each language the catalogue has those of the configuration for
that language in their order, and what they find is listed behind what is found without them. -/
theorem catalogue_layered (c : Config) :
    ((∃ e, c.catalogue = .error e) ↔ ∃ r ∈ c.rules, ∃ reason, r.compile = .error reason) ∧
    (∀ e, c.catalogue = .error e ↔ ∃ front r back reason, c.rules = front ++ r :: back ∧
      (∀ x ∈ front, ∃ entry, x.compile = .ok entry) ∧ r.compile = .error reason ∧
      e = .rule reason) ∧
    ∀ rules, c.catalogue = .ok rules →
      (∀ l, ∃ added, c.Adds l added ∧
        rules.rulesFor l = Catalogue.builtin.rulesFor l ++ added ∧
        ∀ (s s' : Scoring) (code name : String), Language.parse? name = some l →
          ((⟨rules, s⟩ : Analyzer).analyze code name).errors =
            ((⟨.builtin, s'⟩ : Analyzer).analyze code name).errors ++
              if isBlankText code then [] else added.filterMap (·.defect? code l)) ∧
      (∀ (s s' : Scoring) (code name : String), Language.parse? name = none →
        ((⟨rules, s⟩ : Analyzer).analyze code name).errors = [] ∧
          ((⟨.builtin, s'⟩ : Analyzer).analyze code name).errors = []) ∧
      ∀ reordered, SameOrder c.rules reordered → ∃ rules',
        ({ c with rules := reordered } : Config).catalogue = .ok rules' ∧
        (∀ l, rules'.rulesFor l = rules.rulesFor l) ∧
        ∀ (s : Scoring) (code name : String), (⟨rules', s⟩ : Analyzer).analyze code name =
          (⟨rules, s⟩ : Analyzer).analyze code name := by
  refine ⟨exists_error_iff, fun e => catalogue_eq_error_iff, fun rules hrules => ?_⟩
  refine ⟨fun l => ?_, fun s s' code name hname => ?_, fun reordered hsame => ?_⟩
  · obtain ⟨added, hadded, hbehind⟩ := exists_added hrules l
    exact ⟨added, hadded, hbehind,
      fun s s' code name hname => errors_analyze_added hbehind hname s s' code⟩
  · exact ⟨Analyzer.errors_analyze_unknown _ hname code,
      Analyzer.errors_analyze_unknown _ hname code⟩
  · obtain ⟨rules', hrules', hsame'⟩ := catalogue_reordered hrules hsame
    exact ⟨rules', hrules', hsame', Analyzer.analyze_congr hsame'⟩

/-- A rule for Python under another name. -/
def bareExcept : CustomRule where
  id := "bare-except"
  language := " PY "
  pattern := "except *:"
  message := "Bare except"

/-- A rule for C++. -/
def tabStop : CustomRule where
  id := "tab-stop"
  language := "C++"
  pattern := "\t"
  message := "Tab"
  line := some 3

/-- A rule for Python. -/
def leftToDo : CustomRule where
  id := "left-to-do"
  language := "python"
  pattern := "TODO|FIXME"
  message := "Left to do"

/-- A configuration in which a rule for another language stands between two for Python. -/
def mixedConfig : Config where
  rules := [bareExcept, tabStop, leftToDo]

/-- The rules for Python stand behind the built-in ones, also if the other rule comes first. -/
theorem catalogue_layered_mixed :
    Language.parse? "Py" = some .python ∧
    SameOrder mixedConfig.rules [tabStop, bareExcept, leftToDo] ∧
    ∃ rules, mixedConfig.catalogue = .ok rules ∧
      (∃ added, mixedConfig.Adds .python added ∧
        rules.rulesFor .python = Catalogue.builtin.rulesFor .python ++ added ∧
        ((⟨rules, {}⟩ : Analyzer).analyze "except : #TODO" "Py").errors =
          ((⟨.builtin, {}⟩ : Analyzer).analyze "except : #TODO" "Py").errors ++
            if isBlankText "except : #TODO" then []
            else added.filterMap (·.defect? "except : #TODO" .python)) ∧
      ∃ rules', ({ mixedConfig with rules := [tabStop, bareExcept, leftToDo] }).catalogue =
          .ok rules' ∧
        ∀ l, rules'.rulesFor l = rules.rulesFor l := by
  have hname : Language.parse? "Py" = some .python := by decide +kernel
  have hother : Language.parse? bareExcept.language ≠ Language.parse? tabStop.language := by
    decide +kernel
  have hsame : SameOrder mixedConfig.rules [tabStop, bareExcept, leftToDo] :=
    sameOrder_swap hother [] [leftToDo]
  have hsuccess : mixedConfig.catalogue.isOk = true := by decide +kernel
  obtain ⟨-, -, hlayers⟩ := catalogue_layered mixedConfig
  cases hrules : mixedConfig.catalogue with
  | error e =>
    rw [hrules] at hsuccess
    cases hsuccess
  | ok rules =>
    obtain ⟨hadded, -, hreordered⟩ := hlayers rules hrules
    obtain ⟨added, hadds, hbehind, herrors⟩ := hadded .python
    obtain ⟨rules', hrules', hsame', -⟩ := hreordered _ hsame
    exact ⟨hname, hsame, rules, rfl, ⟨added, hadds, hbehind, herrors {} {} _ _ hname⟩, rules',
      hrules', hsame'⟩

end Config

end SnippetLint
