import SnippetLint.Proofs.Layering
import SnippetLint.Proofs.RunResult

/-!
# Configurations that can be used

Which configuration a run uses, said without a run: the one in the file that is given or found, if
that can be read and is valid, or else the defaults (`Configured`); and how that can go wrong
(`Unconfigured`). Whatever a configuration is used for later cannot fail any more once it has been
found valid: its rules make a catalogue and its globs can be compiled (`Configured.catalogue`,
`Configured.excluded`).
-/

namespace SnippetLint

/-! ## What validation promises -/

/-- A rule that passes its checks compiles. -/
lemma CustomRule.compile_of_validate {r : CustomRule} (h : r.validate = .ok ()) :
    ∃ compiled, r.compile = .ok compiled := by
  rw [validate] at h
  split at h
  · cases h
  · split at h
    · cases h
    · next compiled hcompile => exact ⟨compiled, hcompile⟩

namespace Config

/-- What is asked of a valid configuration, apart from its minimum quality. -/
lemma validate_parts {c : Config} (h : c.validate = .ok ()) :
    c.scoring.validate = .ok () ∧ (∀ r ∈ c.rules, r.validate = .ok ()) ∧
      ∃ globs, c.excluded = .ok globs := by
  rw [validate] at h
  obtain ⟨_, hscoring, h⟩ := bind_eq_ok.mp h
  -- What is asked of the minimum quality is passed on the way to the rules.
  have hrest : (c.rules.forM CustomRule.validate >>= fun _ => discard c.excluded) = .ok () := by
    dsimp only at h
    split at h
    · split at h
      · cases h
      · exact h
    · exact h
  obtain ⟨_, hrules, hglobs⟩ := bind_eq_ok.mp hrest
  refine ⟨?_, forM_eq_ok.mp hrules, ?_⟩
  · cases hvalid : c.scoring.validate with
    | ok => rfl
    | error reason =>
      rw [hvalid] at hscoring
      cases hscoring
  · cases hexcluded : c.excluded with
    | ok globs => exact ⟨globs, rfl⟩
    | error reason =>
      rw [hexcluded] at hglobs
      cases hglobs

/-- The rules of a valid configuration make a catalogue. -/
lemma catalogue_of_rules {c : Config} (h : ∀ r ∈ c.rules, r.validate = .ok ()) :
    ∃ rules, c.catalogue = .ok rules := by
  apply exists_catalogue_iff.mpr
  exact fun r hr => CustomRule.compile_of_validate (h r hr)

end Config

/-! ## The configuration of a run -/

/-- The file that the configuration of a run comes from, if there is one. -/
def chosenConfig? (w : World) (explicit : Option String) : Option String :=
  explicit <|> Run.discoverConfig? w

/-- A run uses a configuration: that of its file, or the defaults if it has none. -/
inductive Configured (w : World) (explicit : Option String) : Config → Prop
  | default (noFile : chosenConfig? w explicit = none) : Configured w explicit {}
  | file {path text : String} {config : Config} (chosen : chosenConfig? w explicit = some path)
      (read : w.files.read path = .ok text) (parsed : Config.ofYamlText text = .ok config)
      (valid : config.validate = .ok ()) : Configured w explicit config

/-- A run has no configuration that it can use: its file cannot be read, or does not hold a
configuration, or holds one that is not valid. -/
inductive Unconfigured (w : World) (explicit : Option String) : Failure → Prop
  | unreadable {path : String} {reason : FileError} (chosen : chosenConfig? w explicit = some path)
      (unread : w.files.read path = .error reason) :
      Unconfigured w explicit (.unreadableConfig path reason)
  | malformed {path text : String} {reason : Yaml.YamlError}
      (chosen : chosenConfig? w explicit = some path) (read : w.files.read path = .ok text)
      (malformed : Config.ofYamlText text = .error reason) :
      Unconfigured w explicit (.malformedConfig path reason)
  | invalid {path text : String} {config : Config} {reason : ConfigError}
      (chosen : chosenConfig? w explicit = some path) (read : w.files.read path = .ok text)
      (parsed : Config.ofYamlText text = .ok config) (invalid : config.validate = .error reason) :
      Unconfigured w explicit (.invalidConfig reason)

variable {w : World} {explicit : Option String} {config : Config}

/-- The rules and the excluded paths of a configuration that a run uses are valid. -/
lemma Configured.parts (h : Configured w explicit config) :
    (∀ r ∈ config.rules, r.validate = .ok ()) ∧ ∃ globs, config.excluded = .ok globs := by
  cases h with
  | default => exact ⟨by simp, [], rfl⟩
  | file _ _ _ valid => exact (config.validate_parts valid).2

/-- A configuration that a run uses has a catalogue. -/
lemma Configured.catalogue (h : Configured w explicit config) :
    ∃ rules, config.catalogue = .ok rules := config.catalogue_of_rules h.parts.1

lemma Configured.excluded (h : Configured w explicit config) :
    ∃ globs, config.excluded = .ok globs := h.parts.2

namespace Run

lemma excludedGlobs_yields {globs : List Glob.Matcher} (h : config.excluded = .ok globs) :
    Yields (excludedGlobs config) (.ok globs) :=
  (yields_attempt_ok h).bind_ok ((yields_forM_tell _).bind_ok (yields_pure globs))

/-- A file is read, what it holds is looked at, and its globs are made ready. -/
lemma loadConfig_file {path : String} (chosen : chosenConfig? w explicit = some path) :
    loadConfig w explicit = (do
      tell (.loadingConfig path)
      let config ← attempt id (readConfig w path)
      attempt .invalidConfig config.validate
      discard (excludedGlobs config)
      return config) := by
  rw [chosenConfig?] at chosen
  rw [loadConfig, chosen]

lemma readConfig_of_read {path text : String} (read : w.files.read path = .ok text) :
    readConfig w path = (Config.ofYamlText text).mapError (.malformedConfig path) := by
  rw [readConfig, read]
  rfl

/-- A run uses its configuration, without fail. -/
lemma loadConfig_yields (h : Configured w explicit config) :
    Yields (loadConfig w explicit) (.ok config) := by
  obtain ⟨globs, hglobs⟩ := h.excluded
  cases h with
  | default noFile =>
    rw [chosenConfig?] at noFile
    rw [loadConfig, noFile]
    exact yields_pure _
  | @file path text _ chosen read parsed valid =>
    have hread : readConfig w path = .ok config := by
      rw [readConfig_of_read read, parsed]
      rfl
    rw [loadConfig_file chosen]
    exact (yields_tell _).bind_ok ((yields_attempt_ok hread).bind_ok
      ((yields_attempt_ok valid).bind_ok
        ((excludedGlobs_yields hglobs).discard.bind_ok (yields_pure config))))

/-- A run without a configuration that it can use gives up and says why. -/
lemma loadConfig_fails {failure : Failure} (h : Unconfigured w explicit failure) :
    Yields (loadConfig w explicit) (.error failure) := by
  -- Each reason stops a later step: reading, parsing, validating.
  cases h with
  | @unreadable path reason chosen unread =>
    have hread : readConfig w path = .error (.unreadableConfig path reason) := by
      rw [readConfig, unread]
      rfl
    rw [loadConfig_file chosen]
    exact (yields_tell _).bind_ok (yields_attempt_error hread).bind_error
  | @malformed path text reason chosen read malformed =>
    have hread : readConfig w path = .error (.malformedConfig path reason) := by
      rw [readConfig_of_read read, malformed]
      rfl
    rw [loadConfig_file chosen]
    exact (yields_tell _).bind_ok (yields_attempt_error hread).bind_error
  | @invalid path text config reason chosen read parsed invalid =>
    have hread : readConfig w path = .ok config := by
      rw [readConfig_of_read read, parsed]
      rfl
    rw [loadConfig_file chosen]
    exact (yields_tell _).bind_ok
      ((yields_attempt_ok hread).bind_ok (yields_attempt_error invalid).bind_error)

end Run

/-- A run has a configuration that it uses, or a reason for having none. -/
lemma configured_or_unconfigured (w : World) (explicit : Option String) :
    (∃ config, Configured w explicit config) ∨ ∃ failure, Unconfigured w explicit failure := by
  cases chosen : chosenConfig? w explicit with
  | none => exact .inl ⟨{}, .default chosen⟩
  | some path =>
    cases read : w.files.read path with
    | error reason => exact .inr ⟨_, .unreadable chosen read⟩
    | ok text =>
      cases parsed : Config.ofYamlText text with
      | error reason => exact .inr ⟨_, .malformed chosen read parsed⟩
      | ok config =>
        cases valid : config.validate with
        | error reason => exact .inr ⟨_, .invalid chosen read parsed valid⟩
        | ok => exact .inl ⟨config, .file chosen read parsed valid⟩

/-- A run has one configuration only. -/
lemma Configured.unique {config' : Config} (h : Configured w explicit config)
    (h' : Configured w explicit config') : config = config' :=
  Except.ok.inj ((Run.loadConfig_yields h).unique (Run.loadConfig_yields h'))

lemma Configured.not_unconfigured (h : Configured w explicit config) (failure : Failure) :
    ¬ Unconfigured w explicit failure := by
  intro h'
  cases (Run.loadConfig_yields h).unique (Run.loadConfig_fails h')

end SnippetLint
