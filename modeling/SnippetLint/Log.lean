import SnippetLint.Glob.Strategy
import SnippetLint.Text.Basic
import SnippetLint.Text.Quoted
import SnippetLint.Unicode.Property

/-!
# The log

What the program tells about its work while it is under way. Every event has a level and comes
from one part of the program; a filter decides by both which events are written.
-/

namespace SnippetLint

/-- How important an event is. -/
inductive Level
  | error
  | warn
  | info
  | debug
  | trace
  deriving Repr, DecidableEq

namespace Level

/-- Every level, most important first. -/
def all : List Level := [error, warn, info, debug, trace]

/-- The place of a level in their order, from one. -/
def rank : Level → Nat
  | error => 1
  | warn => 2
  | info => 3
  | debug => 4
  | trace => 5

/-- The name of a level in lower case. -/
def name : Level → String
  | error => "error"
  | warn => "warn"
  | info => "info"
  | debug => "debug"
  | trace => "trace"

/-- What is written for a level. -/
def label : Level → String
  | error => "ERROR"
  | warn => "WARN"
  | info => "INFO"
  | debug => "DEBUG"
  | trace => "TRACE"

end Level

/-! ## Events -/

/-- Something that the program tells about its work. -/
inductive Event
  | loadingConfig (path : String)
  | analyzed (path : String) (issues : Nat) (quality : UInt8)
  | skippedBlankFile (path : String)
  | analysisComplete (language : String) (defects : Nat) (quality : UInt8)
  | ruleMatched (rule : String) (line : Nat)
  | noRules (language : String)
  | templateSelected (language requested selected : String)
  | noTemplates (language : String)
  | globConverted (glob regex : String)
  | globsBuilt (tally : Glob.Tally)
  deriving Repr, DecidableEq

namespace Event

/-- How important an event is. -/
def level : Event → Level
  | loadingConfig _ | analyzed .. => .info
  | skippedBlankFile _ => .warn
  | analysisComplete .. | ruleMatched .. | noRules _ | templateSelected .. | noTemplates _
  | globConverted .. | globsBuilt _ => .debug

/-- The part of the program that an event comes from. -/
def source : Event → String
  | loadingConfig _ | analyzed .. | skippedBlankFile _ => "snipcheck::cli"
  | analysisComplete .. => "snipcheck::analyzer"
  | ruleMatched .. | noRules _ => "snipcheck::detect::runner"
  | templateSelected .. | noTemplates _ => "snipcheck::generate"
  | globConverted .. | globsBuilt _ => "globset"

/-- The names of what is told about an event. -/
def fields : Event → List String
  | loadingConfig _ | skippedBlankFile _ => ["message", "path"]
  | analyzed .. => ["message", "path", "issues", "quality"]
  | analysisComplete .. => ["message", "language", "defects", "code_quality"]
  | ruleMatched .. => ["message", "rule", "line"]
  | noRules _ | noTemplates _ => ["message", "language"]
  | templateSelected .. => ["message", "language", "requested", "selected"]
  | globConverted .. | globsBuilt _ =>
    ["message", "log.target", "log.module_path", "log.file", "log.line"]

/-- What is written about an event. -/
def text : Event → String
  | loadingConfig path => "loading config path=" ++ path
  | analyzed path issues quality =>
    "analyzed path=" ++ path ++ " issues=" ++ decimal issues ++ " quality=" ++
      decimal quality.toNat
  | skippedBlankFile path => "skipping empty file path=" ++ path
  | analysisComplete language defects quality =>
    "analysis complete language=" ++ language ++ " defects=" ++ decimal defects ++
      " code_quality=" ++ decimal quality.toNat
  | ruleMatched rule line => "rule matched rule=" ++ rule ++ " line=" ++ decimal line
  | noRules language => "no rules for unrecognized language language=" ++ quoted language
  | templateSelected language requested selected =>
    "template selected language=" ++ quoted language ++ " requested=" ++ quoted requested ++
      " selected=" ++ selected
  | noTemplates language =>
    "no templates for language, using placeholder language=" ++ quoted language
  | globConverted glob regex =>
    "glob `Glob(" ++ quoted glob ++ ")` converted to regex: `" ++ quoted regex ++ "`"
  | globsBuilt tally =>
    "built glob set; " ++ decimal tally.wholePaths ++ " literals, " ++
      decimal tally.fileNames ++ " basenames, " ++ decimal tally.extensions ++ " extensions, " ++
      decimal tally.starts ++ " prefixes, " ++ decimal tally.endings ++ " suffixes, " ++
      decimal tally.extensionsAndMore ++ " required extensions, " ++
      decimal tally.others ++ " regexes"

/-- The line that is written for an event. -/
def line (e : Event) : String := e.level.label ++ " " ++ e.text

end Event

/-! ## Filters -/

/-- Which events of some sources are written: those up to a level. -/
structure LogDirective where
  /-- How the names of the sources begin; without it the directive is about all sources. -/
  source : Option (List Char) := none
  /-- The names of what must be told about an event. -/
  fields : List (List Char) := []
  /-- Whether the directive is about a stretch of work alone. The program marks none. -/
  inSpan : Bool := false
  /-- The rank of the last level that is written; zero writes nothing. -/
  rank : Nat
  deriving Repr, DecidableEq

/-- Which events are written. -/
abbrev LogFilter := List LogDirective

namespace LogDirective

/-- The rank that a text names: a level in any case, its number, or that nothing is written. -/
def rank? (s : List Char) : Option Nat :=
  let digits := if s.head? == some '+' then s.drop 1 else s
  if !digits.isEmpty && digits.all Char.isDigit then
    let number := digits.foldl (fun n c => 10 * n + (c.toNat - '0'.toNat)) 0
    if number ≤ Level.trace.rank then some number else none
  else
    let lower := String.ofList (s.map Char.toLower)
    if lower == "off" then some 0
    else (Level.all.find? (·.name == lower)).map Level.rank

/-- The rank that is given for a source. Without a level everything is written. -/
def givenRank? (s : List Char) : Option Nat :=
  if s.isEmpty then some Level.trace.rank else rank? s

/-- Whether a directive can begin with a character, brackets apart. -/
def canBegin (c : Char) : Bool :=
  c == '-' || c == ':' || c == '_' || Unicode.isAlphanumeric c

/-- Reads what is left of a directive after `count` characters, where a level may be given. -/
def readRank (s bare : List Char) (count : Nat) (d : LogDirective) : Option LogDirective :=
  match bare.drop count with
  | [] => some d
  | '=' :: _ => (givenRank? (s.drop (count + 1))).map fun rank => { d with rank }
  | _ => none

/-- Reads what is left of a directive after `count` characters, the last of which is an opening
bracket: the name of a stretch of work and a field in braces, each of which may be missing. A field
may have a value, which only stretches of work are asked for. -/
def readSpan (s bare : List Char) (count : Nat) (source : Option (List Char)) :
    Option LogDirective :=
  let d : LogDirective := { source, rank := Level.trace.rank }
  let name := (bare.drop count).takeWhile fun c => c != ']' && c != '\x7b'
  let afterName := count + name.length + 1
  match bare.drop (afterName - 1) with
  | ']' :: _ => readRank s bare afterName { d with inSpan := true }
  | _ :: rest =>
    let length := (rest.takeWhile (· != '\x7d')).length
    let field := (s.drop afterName).take length
    match rest.drop length with
    | '\x7d' :: ']' :: _ =>
      let fields := [field.takeWhile (· != '=')]
      let inSpan := !name.isEmpty || field.contains '='
      if field.isEmpty then none
      else readRank s bare (afterName + length + 2) { d with fields, inSpan }
    | _ => none
  | [] => none

/-- Reads a directive: a level, or a source with a stretch of work and a level after it. Places in
a directive are counted without the blanks at its front, but its parts are taken from the text with
them. -/
def parse? (s : List Char) : Option LogDirective :=
  let bare := Text.trim s
  let source := bare.takeWhile fun c => c != '=' && c != '['
  let count := source.length
  match bare with
  | [] => none
  | '[' :: _ => readSpan s bare 1 none
  | c :: _ =>
    if !canBegin c then none
    else match bare.drop count with
      | '=' :: _ => readRank s bare count { source := some (s.take count), rank := 0 }
      | '[' :: _ => readSpan s bare (count + 1) (some (s.take count))
      | _ => match rank? s with
        | some rank => some { rank }
        | none => some { source := some s, rank := Level.trace.rank }

/-- Whether a directive is about an event. -/
def isAbout (d : LogDirective) (e : Event) : Bool :=
  !d.inSpan && d.source.all (·.isPrefixOf e.source.toList) &&
    d.fields.all fun name => e.fields.contains (String.ofList name)

/-- How closely a directive names its sources. -/
def closeness (d : LogDirective) : Nat := d.source.elim 0 (·.length + 1)

/-- Whether a directive names events at least as closely as another one: first its sources, then
the number of its fields, then their names. -/
def isAsCloseAs (d e : LogDirective) : Bool :=
  e.closeness < d.closeness || (e.closeness == d.closeness &&
    (e.fields.length < d.fields.length ||
      (e.fields.length == d.fields.length && !decide (d.fields < e.fields))))

end LogDirective

namespace LogFilter

/-- The filter that writes the events of all sources up to a level. -/
def upTo (level : Level) : LogFilter := [{ rank := level.rank }]

/-- The filter for a number of requests to tell more. -/
def ofVerbosity : Nat → LogFilter
  | 0 => upTo .warn
  | 1 => upTo .info
  | _ => upTo .debug

/-- Reads a filter: directives with commas between them. Without a directive it writes errors
only. -/
def parse? (s : String) : Option LogFilter := do
  let texts := (Text.splitAt ',' s.toList).filter (!·.isEmpty)
  let directives ← texts.mapM LogDirective.parse?
  return if directives.isEmpty then upTo .error else directives

/-- The directive that names an event most closely; of several, the last one. -/
def closest? (filter : LogFilter) (e : Event) : Option LogDirective :=
  (filter.filter (·.isAbout e)).foldl
    (fun found d => if found.all (d.isAsCloseAs ·) then some d else found) none

/-- Whether a filter writes an event, as the directive says that names it most closely. -/
def allows (filter : LogFilter) (e : Event) : Bool :=
  (filter.closest? e).any (e.level.rank ≤ ·.rank)

end LogFilter

end SnippetLint
