import SnippetLint.Proofs.Configured
import SnippetLint.Proofs.Examined
import SnippetLint.Proofs.ReportText

/-!
# The verdict of an analysis

What an analysis prints and which exit code it has. Before any input is looked at, everything that
is asked for has to be there: a known format, a configuration, a minimum that can be reached, and
the inputs (`Ready`, or else `Unready`). Then the inputs are looked at, all of them, and the first
one that fails is all that is reported, by a notice that is about it (`Input.Blamed`). Only if none
fails, the reports are printed, all of them and in their order (`Report.Shows`), and the code says
whether they are good enough.

The last theorem puts this together for all runs of the program. A run that fails prints nothing.
-/

namespace SnippetLint

open Input

/-! ## What has to be there -/

/-- The quality that is asked for. -/
def effectiveMinimum (a : AnalyzeArguments) (config : Config) : UInt8 :=
  (a.minQuality <|> config.minQuality).getD 0

/-- All that an analysis needs is there. -/
structure Ready (w : World) (a : AnalyzeArguments) (config : Config) (rules : Catalogue)
    (inputs : List Input) : Prop where
  format : a.format = "pretty" ∨ a.format = "json"
  configured : Configured w a.config config
  minimum : effectiveMinimum a config ≤ 100
  rules : config.catalogue = .ok rules
  collected : ∃ globs, config.excluded = .ok globs ∧
    ofPaths w.files a.language globs a.paths = .ok inputs

/-- Something that an analysis needs is not there. -/
inductive Unready (w : World) (a : AnalyzeArguments) : Prop
  | format (unknown : a.format ≠ "pretty") (unknown' : a.format ≠ "json")
  | config {failure : Failure} (bad : Unconfigured w a.config failure)
  | minimum {config : Config} (configured : Configured w a.config config)
      (high : 100 < effectiveMinimum a config)
  | path {path : String} (given : path ∈ a.paths) (other : path ≠ standardPath)
      (lost : w.files.hasPath path = false)
  | language (wanted : standardPath ∈ a.paths) (missing : a.language = none)

variable {w : World} {a : AnalyzeArguments} {config : Config} {rules : Catalogue}
  {inputs : List Input}

lemma contains_formats {format : String} :
    (!Run.formats.contains format) = false ↔ format = "pretty" ∨ format = "json" := by
  rw [Bool.not_eq_false']
  simp [Run.formats]

/-- The inputs of an analysis that is ready have been collected. -/
lemma Ready.collects (h : Ready w a config rules inputs) (hfiles : w.files.root.WellFormed) :
    ∃ globs, Collects w.files a.language globs [] a.paths inputs := by
  obtain ⟨globs, -, hinputs⟩ := h.collected
  refine ⟨globs, ?_⟩
  have hanswers := ofPaths_answers hfiles a.language globs a.paths
  rwa [hinputs] at hanswers

/-- Nothing is missing in an analysis that is ready. -/
lemma Ready.not_unready (h : Ready w a config rules inputs) (hfiles : w.files.root.WellFormed) :
    ¬ Unready w a := by
  intro hunready
  obtain ⟨globs, -, hinputs⟩ := h.collected
  have havailable := (ofPaths_eq_ok_iff hfiles globs).mp ⟨inputs, hinputs⟩
  cases hunready with
  | format unknown unknown' => exact h.format.elim unknown unknown'
  | config bad => exact h.configured.not_unconfigured _ bad
  | minimum configured high =>
    obtain rfl := configured.unique h.configured
    exact absurd h.minimum (UInt8.not_le.mpr high)
  | path given other lost => simpa [lost] using havailable.1 _ given other
  | language wanted missing => simpa [missing] using havailable.2 wanted

lemma Unready.of_not_available (h : ¬ Available w.files a.language a.paths) : Unready w a := by
  rw [Available, not_and_or] at h
  push Not at h
  obtain ⟨path, hpath, other, lost⟩ | ⟨wanted, missing⟩ := h
  · exact .path hpath other (by simpa using lost)
  · exact .language wanted (by simpa using missing)

namespace Run

/-! ## The result of an analysis -/

/-- What an analysis prints and answers once it is ready. -/
def verdict (w : World) (a : AnalyzeArguments) (config : Config) (rules : Catalogue)
    (inputs : List Input) : Except Failure (StyledText × Answer) :=
  if inputs.isEmpty then .ok ([], { warning := some "no files to analyze" })
  else (inputs.mapM fun input =>
      (analyzeInput w ⟨⟨rules, config.scoring⟩, .bundled⟩ input).2).map fun found =>
    (formatReport a.format (found.filterMap id) (effectiveMinimum a config),
      { passed := (found.filterMap id).all (·.passes (effectiveMinimum a config)) })

/-- With a known format and a configuration, it only depends on the inputs what an analysis comes
to. -/
lemma analyze_configured {globs : List Glob.Matcher}
    (hformat : a.format = "pretty" ∨ a.format = "json")
    (hconfig : Configured w a.config config) (hminimum : effectiveMinimum a config ≤ 100)
    (hrules : config.catalogue = .ok rules) (hglobs : config.excluded = .ok globs) :
    Delivers (analyze w a)
      (ofPaths w.files a.language globs a.paths >>= verdict w a config rules) := by
  rw [effectiveMinimum] at hminimum
  rw [analyze, contains_formats.mpr hformat]
  -- Along the command; up to the report each of its steps is silent.
  refine (silent_loadConfig w a.config).delivers_bind (loadConfig_yields hconfig) ?_
  dsimp only
  rw [if_neg (UInt8.not_lt.mpr hminimum)]
  refine (silent_attempt _ _).delivers_bind (yields_attempt_ok hrules) ?_
  refine (silent_excludedGlobs config).delivers_bind (excludedGlobs_yields hglobs) ?_
  cases hinputs : ofPaths w.files a.language globs a.paths with
  | error failure => exact (silent_attempt _ _).delivers_bind_error (yields_attempt_error rfl)
  | ok inputs =>
    refine (silent_attempt _ _).delivers_bind (yields_attempt_ok rfl) ?_
    change Delivers _ (verdict w a config rules inputs)
    rw [verdict]
    cases inputs.isEmpty with
    | true => exact delivers_pure _
    | false =>
      have hanalyze := analyzeInputs_yields w ⟨⟨rules, config.scoring⟩, .bundled⟩ inputs
      cases hresult : inputs.mapM fun input =>
          (analyzeInput w ⟨⟨rules, config.scoring⟩, .bundled⟩ input).2 with
      | ok found =>
        rw [hresult] at hanalyze
        exact (silent_analyzeInputs w _ inputs).delivers_bind hanalyze (delivers_print _ _)
      | error failure =>
        rw [hresult] at hanalyze
        exact (silent_analyzeInputs w _ inputs).delivers_bind_error hanalyze

lemma analyze_ready (h : Ready w a config rules inputs) :
    Delivers (analyze w a) (verdict w a config rules inputs) := by
  obtain ⟨globs, hglobs, hinputs⟩ := h.collected
  have hdelivers := analyze_configured h.format h.configured h.minimum h.rules hglobs
  rwa [hinputs] at hdelivers

/-! The reasons to give up before any input is looked at, in the order in which they count. -/

lemma analyze_unknownFormat (h : ¬ (a.format = "pretty" ∨ a.format = "json")) :
    Yields (analyze w a) (.error (.unknownFormat a.format)) := by
  rw [← contains_formats, Bool.not_eq_false] at h
  rw [analyze, h]
  exact (yields_throw _).bind_error

lemma analyze_unconfigured {failure : Failure} (hformat : a.format = "pretty" ∨ a.format = "json")
    (h : Unconfigured w a.config failure) : Yields (analyze w a) (.error failure) := by
  rw [analyze, contains_formats.mpr hformat]
  exact (loadConfig_fails h).bind_error

lemma analyze_minQualityTooHigh (hformat : a.format = "pretty" ∨ a.format = "json")
    (hconfig : Configured w a.config config) (h : 100 < effectiveMinimum a config) :
    Yields (analyze w a) (.error .minQualityTooHigh) := by
  rw [effectiveMinimum] at h
  rw [analyze, contains_formats.mpr hformat]
  refine (loadConfig_yields hconfig).bind_ok ?_
  dsimp only
  rw [if_pos h]
  exact (yields_throw _).bind_error

/-- An analysis is ready, or it gives up before it looks at any input. -/
lemma ready_or_unready (hfiles : w.files.root.WellFormed) (a : AnalyzeArguments) :
    (∃ config rules inputs, Ready w a config rules inputs) ∨
      Unready w a ∧ ∃ failure, answer w (.analyze a) = .error failure := by
  -- In the order in which the command asks for what it needs.
  by_cases hformat : a.format = "pretty" ∨ a.format = "json"
  · obtain ⟨config, hconfig⟩ | ⟨failure, hbad⟩ := configured_or_unconfigured w a.config
    · by_cases hminimum : effectiveMinimum a config ≤ 100
      · obtain ⟨rules, hrules⟩ := hconfig.catalogue
        obtain ⟨globs, hglobs⟩ := hconfig.excluded
        have hanswer := Delivers.answer (c := .analyze a)
          (analyze_configured hformat hconfig hminimum hrules hglobs)
        cases hinputs : ofPaths w.files a.language globs a.paths with
        | ok inputs =>
          exact .inl ⟨config, rules, inputs, hformat, hconfig, hminimum, hrules, globs, hglobs,
            hinputs⟩
        | error failure =>
          have hpaths : ¬ Available w.files a.language a.paths := by
            rw [← ofPaths_eq_ok_iff hfiles globs, hinputs]
            simp
          rw [hinputs] at hanswer
          exact .inr ⟨.of_not_available hpaths, failure, hanswer⟩
      · rw [UInt8.not_le] at hminimum
        exact .inr ⟨.minimum hconfig hminimum, _, Yields.answer_error (c := .analyze a)
          (analyze_minQualityTooHigh hformat hconfig hminimum)⟩
    · exact .inr ⟨.config hbad, failure, Yields.answer_error (c := .analyze a)
        (analyze_unconfigured hformat hbad)⟩
  · have hanswer := Yields.answer_error (w := w) (c := .analyze a) (analyze_unknownFormat hformat)
    rw [not_or] at hformat
    exact .inr ⟨.format hformat.1 hformat.2, _, hanswer⟩

end Run

/-! ## What comes out of an analysis -/

/-- An input is analyzed and does not have the quality that is asked for. -/
def Input.Low (w : World) (analyzer : Analyzer) (minimum : UInt8) (input : Input) : Prop :=
  ∃ text, input.HasText w text ∧ isBlankText text = false ∧
    (analyzer.analyze text input.language).codeQuality < minimum

/-- What is said about an input that fails: what is wrong with it, and of a file, which one it is. -/
inductive Input.Blamed (w : World) (input : Input) : String → Prop
  | file (file : input.isStandard = false) (bad : input.NotText w) : input.Blamed w
      ("Error: reading " ++ input.path ++ ": stream did not contain valid UTF-8")
  | standard (standard : input.isStandard = true) (bad : input.NotText w) :
      input.Blamed w "Error: reading stdin: stream did not contain valid UTF-8"
  | blank {text : String} (standard : input.isStandard = true) (has : input.HasText w text)
      (blank : isBlankText text = true) :
      input.Blamed w "Error: invalid input: code must not be empty"

/-- What is said for a failure is about the input that fails. -/
lemma Fails.blamed {input : Input} {failure : Failure} (h : Fails w input failure) :
    input.Blamed w (Invocation.noticeOf failure).text := by
  cases h with
  | notText bad =>
    cases hstandard : input.isStandard with
    | true =>
      have hsaid : (Invocation.noticeOf .unreadableInput).text =
          "Error: reading stdin: stream did not contain valid UTF-8" := by decide +kernel
      rw [if_pos rfl, hsaid]
      exact .standard hstandard bad
    | false =>
      have hsaid : (Invocation.noticeOf (.unreadable input.path .notText)).text =
          "Error: reading " ++ input.path ++ ": stream did not contain valid UTF-8" := by
        show "Error: " ++ ("reading " ++ input.path ++ ": " ++ FileError.notText.message) = _
        apply String.toList_injective
        simp [FileError.message]
      rw [if_neg Bool.false_ne_true, hsaid]
      exact .file hstandard bad
  | blank standard has blank =>
    have hsaid : (Invocation.noticeOf (.blank ⟨.code⟩)).text =
        "Error: invalid input: code must not be empty" := by decide +kernel
    rw [hsaid]
    exact .blank standard has blank

/-- What comes out of an analysis that is ready. The first input that fails is all that is
reported; if none does, the reports are in the order of the inputs. -/
inductive Concludes (w : World) (a : AnalyzeArguments) (config : Config) (rules : Catalogue)
    (inputs : List Input) (o : Outcome) : Prop
  | nothing (empty : inputs = []) (code : o.exitCode = 0) (output : o.output = [])
  | failed {front : List Input} {input : Input} {back : List Input} {failure : Failure}
      (split : inputs = front ++ input :: back) (first : ∀ j ∈ front, ∀ f, ¬ Fails w j f)
      (fails : Fails w input failure) (code : o.exitCode = 2) (output : o.output = [])
      (notice : o.notice = some (Invocation.noticeOf failure))
      (told : ∃ notice, o.notice = some notice ∧ input.Blamed w notice.text)
  | reported {found : List (Option FileReport)} (nonempty : inputs ≠ [])
      (examined : List.Forall₂ (Examined w ⟨rules, config.scoring⟩) inputs found)
      (low : o.exitCode = 1 ↔
        ∃ input ∈ inputs, input.Low w ⟨rules, config.scoring⟩ (effectiveMinimum a config))
      (high : o.exitCode = 0 ↔
        ¬ ∃ input ∈ inputs, input.Low w ⟨rules, config.scoring⟩ (effectiveMinimum a config))
      (output : o.output =
        Run.formatReport a.format (found.filterMap id) (effectiveMinimum a config))
      (shown : Report.Shows a.format (found.filterMap id) (effectiveMinimum a config) o.output)

/-- An analysis gives up: something that it needs is not there, or some input is no text, or the
standard input is wanted and blank. -/
inductive GivesUp (w : World) (a : AnalyzeArguments) : Prop
  | unready (lacking : Unready w a)
  | notText {config : Config} {rules : Catalogue} {inputs : List Input} {input : Input}
      (ready : Ready w a config rules inputs) (collected : input ∈ inputs) (bad : input.NotText w)
  | blank {text : String} (wanted : standardPath ∈ a.paths)
      (has : String.fromUTF8? w.input = some text) (blank : isBlankText text = true)

/-- What an analysis needs is the same whoever asks. -/
lemma Ready.unique {config' : Config} {rules' : Catalogue} {inputs' : List Input}
    (h : Ready w a config rules inputs) (h' : Ready w a config' rules' inputs') :
    config = config' ∧ rules = rules' ∧ inputs = inputs' := by
  obtain rfl := h.configured.unique h'.configured
  obtain ⟨globs, hglobs, hinputs⟩ := h.collected
  obtain ⟨globs', hglobs', hinputs'⟩ := h'.collected
  obtain rfl := Except.ok.inj (hglobs.symm.trans hglobs')
  exact ⟨rfl, Except.ok.inj (h.rules.symm.trans h'.rules),
    Except.ok.inj (hinputs.symm.trans hinputs')⟩

/-- An input that holds a text fails only if it is the standard input and blank. -/
lemma exists_fails_iff {input : Input} : (∃ failure, Fails w input failure) ↔
    input.NotText w ∨
      input.isStandard = true ∧ ∃ text, input.HasText w text ∧ isBlankText text = true := by
  constructor
  · rintro ⟨_, bad | ⟨standard, has, blank⟩⟩
    · exact .inl bad
    · exact .inr ⟨standard, _, has, blank⟩
  · rintro (bad | ⟨standard, text, has, blank⟩)
    · exact ⟨_, .notText bad⟩
    · exact ⟨_, .blank standard has blank⟩

lemma hasText_standard {input : Input} {text : String} (h : input.isStandard = true) :
    input.HasText w text ↔ String.fromUTF8? w.input = some text := by
  rw [HasText, bytes?_standard h]
  constructor
  · intro hhas
    obtain ⟨content, hbytes, htext⟩ := hhas
    rw [Option.some.inj hbytes]
    exact htext
  · intro htext
    exact ⟨w.input, rfl, htext⟩

/-- Once it is ready, an analysis gives up if some input fails. -/
lemma Ready.givesUp_iff (h : Ready w a config rules inputs) (hfiles : w.files.root.WellFormed) :
    GivesUp w a ↔ ∃ input ∈ inputs, ∃ failure, Fails w input failure := by
  obtain ⟨globs, hcollects⟩ := h.collects hfiles
  have hstandard := hcollects.exists_standard_iff
  simp only [List.not_mem_nil, not_false_eq_true, and_true] at hstandard
  constructor
  · rintro (lacking | ⟨ready, collected, bad⟩ | ⟨wanted, has, blank⟩)
    · exact absurd lacking (h.not_unready hfiles)
    · obtain ⟨-, -, rfl⟩ := h.unique ready
      exact ⟨_, collected, _, .notText bad⟩
    · obtain ⟨input, hinput, standard⟩ := hstandard.mpr wanted
      exact ⟨input, hinput, _, .blank standard ((hasText_standard standard).mpr has) blank⟩
  · rintro ⟨input, hinput, hfails⟩
    obtain bad | ⟨standard, text, has, blank⟩ := exists_fails_iff.mp hfails
    · exact .notText h hinput bad
    · exact .blank (hstandard.mp ⟨input, hinput, standard⟩) ((hasText_standard standard).mp has)
        blank

/-- The reports of all inputs have the quality that is asked for unless some input is low. -/
lemma all_passes_iff {analyzer : Analyzer} {found : List (Option FileReport)}
    (h : List.Forall₂ (Examined w analyzer) inputs found) (minimum : UInt8) :
    (found.filterMap id).all (·.passes minimum) = true ↔
      ¬ ∃ input ∈ inputs, input.Low w analyzer minimum := by
  induction h with
  | nil => simp
  | @cons input report inputs found hexamined _ ih =>
    rw [List.exists_mem_cons_iff, not_or, ← ih]
    cases hexamined with
    | @skipped text _ has blank =>
      -- A blank file has no report that could count, and it is not low either.
      have hhigh : ¬ input.Low w analyzer minimum := by
        rintro ⟨text', has', code, -⟩
        obtain rfl := has.unique has'
        simp [blank] at code
      simp [hhigh]
    | @analyzed text has code =>
      have hlow : input.Low w analyzer minimum ↔
          (analyzer.analyze text input.language).codeQuality < minimum := by
        constructor
        · rintro ⟨text', has', -, hlow⟩
          obtain rfl := has.unique has'
          exact hlow
        · exact fun hlow => ⟨text, has, code, hlow⟩
      simp [FileReport.passes, hlow]

namespace Invocation

open Run

variable {i : Invocation}

/-- What comes out of an analysis that is ready. -/
lemma run_concludes (hcommand : i.command = .analyze a) (h : Ready w a config rules inputs)
    (hfiles : w.files.root.WellFormed) : Concludes w a config rules inputs (i.run w) := by
  obtain ⟨globs, hcollects⟩ := h.collects hfiles
  have hanswer : Run.answer w i.command = verdict w a config rules inputs := by
    rw [hcommand]
    exact Delivers.answer (c := .analyze a) (analyze_ready h)
  rw [verdict] at hanswer
  cases inputs with
  | nil =>
    obtain ⟨hcode, houtput⟩ := run_of_answer_ok hanswer
    exact .nothing rfl hcode houtput
  | cons input inputs =>
    rw [List.isEmpty_cons, if_neg Bool.false_ne_true] at hanswer
    have hbytes := hcollects.exists_bytes hfiles
    cases hfound : (input :: inputs).mapM fun input =>
        (analyzeInput w ⟨⟨rules, config.scoring⟩, .bundled⟩ input).2 with
    | error failure =>
      rw [hfound] at hanswer
      obtain ⟨front, bad, back, hsplit, hfirst, hfails⟩ := mapM_analyzeInput_eq_error hbytes hfound
      obtain ⟨hcode, houtput, hnotice⟩ := run_of_answer_error hanswer
      exact .failed hsplit hfirst hfails hcode houtput hnotice ⟨_, hnotice, hfails.blamed⟩
    | ok found =>
      rw [hfound] at hanswer
      have hexamined := mapM_analyzeInput_eq_ok hfound
      have hpassed := all_passes_iff hexamined (effectiveMinimum a config)
      obtain ⟨hcode, houtput⟩ := run_of_answer_ok hanswer
      refine .reported (List.cons_ne_nil _ _) hexamined ?_ ?_ houtput ?_
      · rw [hcode, ← not_iff_not, ← hpassed]
        split <;> simp_all
      · rw [hcode, ← hpassed]
        split <;> simp_all
      · rw [houtput]
        exact Report.shows_formatReport h.format _ _

/-- The exit code is 2 for an analysis that gives up, and for no other. -/
lemma exitCode_eq_two_iff (hcommand : i.command = .analyze a) (hfiles : w.files.root.WellFormed) :
    (i.run w).exitCode = 2 ↔ GivesUp w a := by
  obtain ⟨config, rules, inputs, hready⟩ | ⟨hunready, failure, hanswer⟩ := ready_or_unready hfiles a
  · rw [hready.givesUp_iff hfiles]
    cases run_concludes hcommand hready hfiles with
    | nothing hempty hcode => simp [hcode, hempty]
    | @failed front input back failure hsplit _ hfails hcode =>
      simp only [hcode, true_iff]
      exact ⟨input, by simp [hsplit], failure, hfails⟩
    | @reported found _ hexamined hlow hhigh =>
      -- All inputs have been examined, so the code is one of the two others.
      have hpassed : (i.run w).exitCode ≠ 2 := by
        intro hcode
        have hnone := (not_congr hlow).mp (by simp [hcode])
        simp [hhigh.mpr hnone] at hcode
      have hnone : ∀ input ∈ inputs, ∀ failure, ¬ Fails w input failure :=
        ((List.forall₂_and_left inputs found).mp
          (hexamined.imp fun _ _ h => ⟨h.not_fails, h⟩)).1
      exact ⟨fun hcode => absurd hcode hpassed,
        fun ⟨input, hinput, failure, hfails⟩ => absurd hfails (hnone input hinput failure)⟩
  · rw [← hcommand] at hanswer
    have hcode := (run_of_answer_error hanswer).1
    exact ⟨fun _ => .unready hunready, fun _ => hcode⟩

/-- A run prints nothing if it fails, and only an analysis can find that something is not good
enough. An analysis fails if and only if it gives up, and otherwise its exit code says whether some
input is low. -/
theorem run_verdict (hfiles : w.files.root.WellFormed) (i : Invocation) :
    (i.run w).exitCode ∈ [0, 1, 2] ∧
    ((i.run w).exitCode = 1 → ∃ a, i.command = .analyze a) ∧
    ((i.run w).exitCode = 2 → (i.run w).output = []) ∧
    ∀ a, i.command = .analyze a →
      ((i.run w).exitCode = 2 ↔ GivesUp w a) ∧
      (¬ Unready w a → ∃ config rules inputs, Ready w a config rules inputs) ∧
      ∀ config rules inputs, Ready w a config rules inputs →
        Concludes w a config rules inputs (i.run w) := by
  refine ⟨?_, ?_, ?_, fun a hcommand => ⟨exitCode_eq_two_iff hcommand hfiles, ?_,
    fun config rules inputs hready => run_concludes hcommand hready hfiles⟩⟩
  · obtain ⟨_, answer, -, hcode, -⟩ | ⟨_, -, hcode, -⟩ := run_answer i w
    · rw [hcode]
      cases answer.passed <;> simp
    · simp [hcode]
  · intro hlow
    obtain ⟨_, answer, hanswer, hcode, -⟩ | ⟨_, -, hcode, -⟩ := run_answer i w
    · by_contra hother
      push Not at hother
      have hpassed := passed_of_not_analyze hother hanswer
      simp [hcode, hpassed] at hlow
    · simp [hcode] at hlow
  · intro hfailed
    obtain ⟨_, answer, -, hcode, -⟩ | ⟨_, -, -, houtput, -⟩ := run_answer i w
    · rw [hcode] at hfailed
      cases hpassed : answer.passed <;> simp [hpassed] at hfailed
    · exact houtput
  · intro hlacking
    obtain hready | ⟨hunready, -⟩ := ready_or_unready hfiles a
    · exact hready
    · exact absurd hunready hlacking

/-- A file that has a report is given together with a standard input of blanks, and no report is
printed. Given together with an empty file and with another one, it is reported in its place, with
too low a quality. -/
theorem run_verdict_work :
    let w : World := ⟨workFiles, none, " \n".toUTF8⟩
    let refused : AnalyzeArguments := { paths := ["b.py", "-"], language := some "python" }
    let reports : List FileReport :=
      [⟨"b.py", "python", Analyzer.builtin.analyze "print(1)" "python"⟩,
        ⟨".a.css", "css", Analyzer.builtin.analyze "p {}" "css"⟩]
    w.files.root.WellFormed ∧
    (GivesUp w refused ∧ (run ⟨0, .analyze refused⟩ w).exitCode = 2 ∧
      (run ⟨0, .analyze refused⟩ w).output = []) ∧
    FitsWords reports ∧ ∀ format ∈ ["pretty", "json"],
      let asked : AnalyzeArguments :=
        { paths := ["sub/é.c", "b.py", ".a.css"], format, minQuality := some 80 }
      Ready w asked {} .builtin [⟨"sub/é.c", "c"⟩, ⟨"b.py", "python"⟩, ⟨".a.css", "css"⟩] ∧
        (run ⟨0, .analyze asked⟩ w).exitCode = 1 ∧
        Report.Shows format reports 80 (run ⟨0, .analyze asked⟩ w).output := by
  intro w refused reports
  have hfiles : w.files.root.WellFormed := workFiles_wellFormed
  have hhas : String.fromUTF8? w.input = some " \n" := by decide +kernel
  have hblank : GivesUp w refused := .blank (by decide) hhas (by decide +kernel)
  obtain ⟨-, -, hsilent, hanalysis⟩ := run_verdict hfiles ⟨0, .analyze refused⟩
  have hcode := (hanalysis _ rfl).1.mpr hblank
  have hfits : FitsWords reports := ⟨by decide +kernel, by decide, by decide +kernel⟩
  refine ⟨hfiles, ⟨hblank, hcode, hsilent hcode⟩, hfits, fun format hformat => ?_⟩
  intro asked
  have hexamined : List.Forall₂ (Examined w ⟨.builtin, {}⟩)
      [⟨"sub/é.c", "c"⟩, ⟨"b.py", "python"⟩, ⟨".a.css", "css"⟩] (none :: reports.map some) :=
    .cons (.skipped (by decide) (hasText_of_readInput rfl) (by decide : isBlankText "" = true))
      (.cons (.analyzed (hasText_of_readInput rfl) (by decide +kernel))
        (.cons (.analyzed (hasText_of_readInput rfl) (by decide +kernel)) .nil))
  have hconfig : chosenConfig? w none = none := by decide +kernel
  have hinputs : ofPaths w.files none [] ["sub/é.c", "b.py", ".a.css"] =
      .ok [⟨"sub/é.c", "c"⟩, ⟨"b.py", "python"⟩, ⟨".a.css", "css"⟩] := by
    decide +kernel
  have hready : Ready w asked {} .builtin
      [⟨"sub/é.c", "c"⟩, ⟨"b.py", "python"⟩, ⟨".a.css", "css"⟩] :=
    ⟨by simpa using hformat, .default hconfig, (by decide : (80 : UInt8) ≤ 100), rfl, [], rfl,
      hinputs⟩
  have hlow : (run ⟨0, .analyze asked⟩ w).exitCode = 1 := by
    simp only [List.mem_cons, List.not_mem_nil, or_false] at hformat
    obtain rfl | rfl := hformat <;> decide +kernel
  obtain ⟨-, -, -, hverdict⟩ := run_verdict hfiles ⟨0, .analyze asked⟩
  -- What becomes of the inputs is unique, so the reports that are shown are the ones above.
  cases (hverdict asked rfl).2.2 _ _ _ hready with
  | nothing empty => cases empty
  | failed _ _ _ code => simp [hlow] at code
  | @reported found _ examined _ _ _ shown =>
    have hunique : Relator.RightUnique (Examined w ⟨.builtin, {}⟩) := fun _ _ _ => Examined.unique
    have hfound := List.right_unique_forall₂' hunique hexamined examined
    rw [← hfound] at shown
    exact ⟨hready, hlow, shown⟩

end Invocation

end SnippetLint
