import SnippetLint.Builtin
import SnippetLint.Glob.Set
import SnippetLint.Message
import SnippetLint.Score
import SnippetLint.Text.Quoted

/-!
# Configurations

A configuration changes how snippets are scored, adds rules after the built-in ones, and excludes
paths from the files that are looked for in directories. Everything in it is optional.

`Config.validate` says whether a configuration can be used and, if not, what is wrong with it
first: the scoring, then the minimum quality, then the rules, then the excluded paths.
-/

namespace SnippetLint

/-- A rule of a configuration. -/
structure CustomRule where
  id : String
  language : String
  pattern : String
  message : String
  severity : Severity := .error
  /-- The line to report; without one, the line of the first match. -/
  line : Option Nat := none
  deriving Repr, DecidableEq

/-- A configuration. -/
structure Config where
  version : String := ""
  scoring : Scoring := {}
  /-- The quality that every file must have. -/
  minQuality : Option UInt8 := none
  /-- Globs of the paths that are passed over in directories. -/
  excludedPaths : List String := []
  /-- Rules that come after the built-in ones. -/
  rules : List CustomRule := []
  deriving Repr, DecidableEq

/-- The reasons for which a rule of a configuration is refused. -/
inductive RuleError
  | unknownLanguage (id language : String)
  | badPattern (id pattern : String) (reason : Pattern.PatternError)
  | zeroLine (id : String)
  deriving Repr, DecidableEq

/-- The reasons for which a configuration is refused. -/
inductive ConfigError
  | scoring (reason : ScoringError)
  | minQualityTooHigh (minQuality : UInt8)
  | blankId (pattern : String)
  | rule (reason : RuleError)
  | excludedPath (glob : String) (reason : Glob.GlobError)
  | excludedPaths (reason : Glob.DepthError)
  deriving Repr, DecidableEq

/-- What is said about refused scoring parameters. -/
def ScoringError.message : ScoringError → String
  | cleanScoreTooHigh clean => "clean_score " ++ decimal clean.toNat ++ " exceeds 100"
  | baselineTooHigh baseline clean =>
    "baseline " ++ decimal baseline.toNat ++ " must not exceed clean_score " ++ decimal clean.toNat

/-- What is said about a refused rule. -/
def RuleError.message : RuleError → Message
  | unknownLanguage id language =>
    { text := "rule " ++ quoted id ++ ": unknown language " ++ quoted language }
  | badPattern id pattern reason =>
    { text := "rule " ++ quoted id ++ ": invalid pattern " ++ quoted pattern ++ ": "
      detail := some reason.message }
  | zeroLine id => { text := "rule " ++ quoted id ++ ": line must be positive" }

/-- What is said about a refused configuration. -/
def ConfigError.message : ConfigError → Message
  | scoring reason => { text := reason.message }
  | minQualityTooHigh n => { text := "min_quality " ++ decimal n.toNat ++ " exceeds 100" }
  | blankId pattern =>
    { text := "custom rule with pattern " ++ quoted pattern ++ " has an empty id" }
  | rule reason => reason.message
  | excludedPath glob reason =>
    { text := "invalid excluded_paths pattern " ++ quoted glob ++ ": "
      detail := some reason.message }
  | excludedPaths reason => { text := reason.message }

namespace CustomRule

/-- The rule that is written, and its language. -/
def compile (r : CustomRule) : Except RuleError (Language × Rule) :=
  match Language.parse? r.language with
  | none => .error (.unknownLanguage r.id r.language)
  | some language =>
    match Pattern.compile r.pattern with
    | .error reason => .error (.badPattern r.id r.pattern reason)
    | .ok regex =>
      let rule := fun line =>
        (language, { id := r.id, message := r.message, severity := r.severity, line,
                     matcher := .pattern regex : Rule })
      match r.line with
      | some 0 => .error (.zeroLine r.id)
      | some line => .ok (rule (.fixed line))
      | none => .ok (rule .firstMatch)

/-- Whether a rule of a configuration can be used. -/
def validate (r : CustomRule) : Except ConfigError Unit :=
  if isBlankText r.id then .error (.blankId r.pattern)
  else match r.compile with
    | .error reason => .error (.rule reason)
    | .ok _ => .ok ()

end CustomRule

/-- The globs of a list, ready for use. -/
def compileGlobs (globs : List String) : Except ConfigError (List Glob.Matcher) := do
  let compiled ← globs.mapM fun glob => (Glob.compile glob).mapError (.excludedPath glob)
  match Glob.Matcher.depthError? compiled with
  | some reason => throw (.excludedPaths reason)
  | none => return compiled

namespace Config

/-- The built-in rules followed by those of a configuration. -/
def catalogue (c : Config) : Except ConfigError Catalogue :=
  (c.rules.mapM CustomRule.compile).mapError .rule |>.map fun rules =>
    rules.foldl (fun catalogue (language, rule) => catalogue.push language rule) .builtin

/-- The globs of the paths that are passed over. -/
def excluded (c : Config) : Except ConfigError (List Glob.Matcher) := compileGlobs c.excludedPaths

/-- Whether a configuration can be used. -/
def validate (c : Config) : Except ConfigError Unit := do
  c.scoring.validate.mapError .scoring
  if let some n := c.minQuality then
    if 100 < n then throw (.minQualityTooHigh n)
  c.rules.forM CustomRule.validate
  discard c.excluded

end Config

end SnippetLint
