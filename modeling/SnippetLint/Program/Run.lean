import SnippetLint.CommandLine
import SnippetLint.Log
import SnippetLint.Program.Input
import SnippetLint.Report.Json
import SnippetLint.Report.Pretty

/-!
# Runs of the program

What the program does for an invocation, as a function of the files, the standard input and the
invocation. A run changes files only when it generates code into a file. What it prints on the way
stays printed even if it gives up after that, and then the reason is given too; what it tells about
its work is kept apart.
-/

namespace SnippetLint

/-- What a run of the program finds. -/
structure World where
  files : FileSystem
  /-- The directory for the configuration of the user, if there is one. -/
  configDirectory : Option String
  /-- The standard input. -/
  input : ByteArray

/-- What a run of the program does on the way. -/
structure Effects where
  files : FileSystem
  /-- What it prints, last piece last. -/
  output : StyledText := []
  /-- What it tells about its work, last event last. -/
  events : List Event := []

/-- A part of a run of the program. What is done before it gives up stays done. -/
abbrev Run := ExceptT Failure (StateM Effects)

/-- What a run of the program answers, apart from what it prints. -/
structure Answer where
  warning : Option String := none
  /-- Whether all files have the quality that is asked for. -/
  passed : Bool := true

namespace Run

/-- Prints a text. -/
def print (text : StyledText) : Run Unit := modify fun s => { s with output := s.output ++ text }

/-- Tells something. -/
def tell (e : Event) : Run Unit := modify fun s => { s with events := s.events ++ [e] }

/-- Goes on with a result, or gives up for the reason that there is none. -/
def attempt {ε α : Type} (failure : ε → Failure) (result : Except ε α) : Run α :=
  ExceptT.mk (pure (result.mapError failure))

/-! ## The configuration -/

/-- The names of configuration files. -/
def configNames : List String := [programName ++ ".yaml", "." ++ programName ++ ".yaml"]

/-- The configuration file that is used if none is given: one in the working directory, or else
that of the user. -/
def discoverConfig? (w : World) : Option String :=
  let here := String.join (w.files.workingDirectory.map ("/" ++ ·))
  let below := fun directory name => directory ++ "/" ++ name
  let candidates := configNames.map (below here) ++
    w.configDirectory.toList.flatMap fun directory => (configNames.take 1).map (below directory)
  candidates.find? w.files.isFile

/-- The configuration in a file. -/
def readConfig (w : World) (path : String) : Except Failure Config := do
  let text ← (w.files.read path).mapError (.unreadableConfig path)
  (Config.ofYamlText text).mapError (.malformedConfig path)

/-- What is told about globs that are ready for use. -/
def globEvents (globs : List Glob.Matcher) : List Event :=
  let converted := (Glob.Matcher.others globs).map fun m => Event.globConverted m.glob m.writtenText
  if globs.isEmpty then []
  else converted ++ [.globsBuilt (.ofStrategies (globs.map (·.strategy)))]

/-- The globs of the paths that are passed over. -/
def excludedGlobs (config : Config) : Run (List Glob.Matcher) := do
  let globs ← attempt .invalidConfig config.excluded
  (globEvents globs).forM tell
  return globs

/-- The configuration that is given or found. Without a file everything has its default. -/
def loadConfig (w : World) (explicit : Option String) : Run Config := do
  match explicit <|> discoverConfig? w with
  | none => return {}
  | some path =>
    tell (.loadingConfig path)
    let config ← attempt id (readConfig w path)
    attempt .invalidConfig config.validate
    discard (excludedGlobs config)
    return config

/-- The rules that are applied with a configuration. -/
def activeRules (config : Config) : Run Catalogue := attempt .invalidConfig config.catalogue

/-! ## Analysis -/

/-- The code of an input. -/
def readInput (w : World) (input : Input) : Except Failure String :=
  if input.isStandard then
    match String.fromUTF8? w.input with
    | some text => .ok text
    | none => .error .unreadableInput
  else (w.files.read input.path).mapError (.unreadable input.path)

/-- What is told about an analysis. -/
def analysisEvents (language : String) (result : Analysis) : List Event :=
  let matched := match Language.parse? language with
    | none => [.noRules language]
    | some _ => result.errors.map fun d => .ruleMatched d.rule d.line
  matched ++
    [.analysisComplete (Analyzer.displayName language) result.errors.length result.codeQuality]

/-- Analyzes an input, and tells about it. A file of blanks is passed over, but a standard input of
blanks is refused. -/
def analyzeInput (w : World) (assistant : Assistant) (input : Input) :
    List Event × Except Failure (Option FileReport) :=
  match readInput w input with
  | .error reason => ([], .error reason)
  | .ok code =>
    match assistant.analyze code input.language with
    | .ok result =>
      (analysisEvents input.language result ++
        [.analyzed input.path result.errors.length result.codeQuality],
        .ok (some ⟨input.path, Language.display input.language, result⟩))
    | .error reason =>
      if input.isStandard then ([], .error (.blank reason))
      else ([.skippedBlankFile input.path], .ok none)

/-- Analyzes all inputs. If several of them fail, the first one counts. -/
def analyzeInputs (w : World) (assistant : Assistant) (inputs : List Input) :
    Run (List FileReport) := do
  let results := inputs.map (analyzeInput w assistant)
  results.forM fun (events, _) => events.forM tell
  let reports ← attempt id (results.mapM (·.2))
  return reports.filterMap id

/-- The formats of reports. -/
def formats : List String := ["pretty", "json"]

/-- A report in a format. -/
def formatReport (format : String) (files : List FileReport) (minQuality : UInt8) : StyledText :=
  if format = "json" then [plain (Report.ofFiles files minQuality).jsonText]
  else Report.pretty files minQuality

/-- Analyzes files. -/
def analyze (w : World) (arguments : AnalyzeArguments) : Run Answer := do
  if !formats.contains arguments.format then throw (.unknownFormat arguments.format)
  let config ← loadConfig w arguments.config
  let minQuality := (arguments.minQuality <|> config.minQuality).getD 0
  if 100 < minQuality then throw .minQualityTooHigh
  let rules ← activeRules config
  let assistant : Assistant := ⟨⟨rules, config.scoring⟩, .bundled⟩
  let excluded ← excludedGlobs config
  let inputs ← attempt id (Input.ofPaths w.files arguments.language excluded arguments.paths)
  if inputs.isEmpty then return { warning := some "no files to analyze" }
  let files ← analyzeInputs w assistant inputs
  print (formatReport arguments.format files minQuality)
  return { passed := files.all (·.passes minQuality) }

/-! ## Generation -/

/-- What is told about the generation of code. -/
def generationEvent (prompt language : String) : Event :=
  match TemplateStore.bundled.select? prompt language with
  | some template => .templateSelected language (selectTemplate prompt) template.name
  | none => .noTemplates language

/-- Makes the directory that a file is to be written to. -/
def makeParent (path : String) : Run Unit := do
  let parent := String.ofList ((Path.parent? path.toList).getD [])
  if parent != "" && parent != "." then
    let (result, files) := (← get).files.makeDirectories parent
    modify fun s => { s with files := files }
    attempt (.directoryNotMade parent) result

/-- Writes code to a file that is not there. -/
def writeNew (path code : String) : Run Unit := do
  if (← get).files.hasPath path then throw (.outputExists path)
  makeParent path
  let files ← attempt (.notWritten path) ((← get).files.write path code)
  modify fun s => { s with files := files }

/-- Generates code. -/
def generate (arguments : GenerateArguments) : Run Answer := do
  let code ← attempt .blank (Assistant.builtin.generate arguments.prompt arguments.language)
  tell (generationEvent arguments.prompt arguments.language)
  match arguments.output with
  | none => print [plain code]
  | some path =>
    writeNew path code
    let lines := Text.lineCount code.toList
    print [plain ("Wrote " ++ path ++ " (" ++ decimal lines ++ " lines)\n")]
  return {}

/-! ## Rules -/

/-- What is listed about the line that a rule reports. -/
def lineText : RuleLine → String
  | .fixed line => "line " ++ decimal line
  | .firstMatch => "first match"

/-- The line of a rule in the list. -/
def ruleRow (rule : Rule) : String :=
  "  " ++ padded 20 rule.id ++ " " ++ padded 8 rule.severity.name ++ " " ++
    padded 12 (lineText rule.line) ++ " " ++ rule.message

/-- The section of a language in the list. -/
def rulesSection (rules : Catalogue) (language : Language) : List String :=
  (language.label ++ " (" ++ language.id ++ "):") :: (rules.rulesFor language).map ruleRow ++ [""]

/-- Lists rules. -/
def rules (w : World) (arguments : RulesArguments) : Run Answer := do
  let rules ← activeRules (← loadConfig w arguments.config)
  let languages := match arguments.language with
    | none => some Language.all
    | some name => (Language.parse? name).map ([·])
  let lines := match languages with
    | some languages => languages.flatMap (rulesSection rules)
    | none => ["No rules for " ++ quoted (arguments.language.getD "") ++ "."]
  print [plain (textOfLines lines)]
  return {}

/-- Does what a command asks for. -/
def command (w : World) : Command → Run Answer
  | .analyze arguments => analyze w arguments
  | .generate arguments => generate arguments
  | .rules arguments => rules w arguments

end Run

/-! ## Outcomes -/

/-- What comes out of a run of the program. -/
structure Outcome where
  exitCode : UInt8
  output : StyledText
  /-- What is said to the user apart from the output. -/
  notice : Option Message
  events : List Event
  files : FileSystem

namespace Outcome

/-- What comes out of an answer. -/
def ofAnswer (answer : Answer) (effects : Effects) : Outcome :=
  { exitCode := if answer.passed then 0 else 1
    output := effects.output
    notice := answer.warning.map fun text => { text := "Warning: " ++ text }
    events := effects.events
    files := effects.files }

/-- What comes out of giving up. -/
def ofFailure (failure : Failure) (effects : Effects) : Outcome :=
  { exitCode := 2
    output := effects.output
    notice := some { failure.message with text := "Error: " ++ failure.message.text }
    events := effects.events
    files := effects.files }

end Outcome

/-- What comes out of an invocation. -/
def Invocation.run (i : Invocation) (w : World) : Outcome :=
  match (Run.command w i.command).run.run { files := w.files } with
  | (.ok answer, effects) => .ofAnswer answer effects
  | (.error failure, effects) => .ofFailure failure effects

/-- The events of an outcome that are written to the log. The filter of the environment counts if
there is one that can be read, and that of the invocation otherwise. -/
def Invocation.loggedEvents (i : Invocation) (filter : Option String) (o : Outcome) : List Event :=
  let chosen := (filter.bind LogFilter.parse?).getD (.ofVerbosity i.verbosity)
  o.events.filter (LogFilter.allows chosen)

end SnippetLint
