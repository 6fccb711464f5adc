import SnippetLint.Text.Basic
import SnippetLint.Version

/-!
# Command lines

What the arguments of the program ask for. Arguments are read from left to right. The value of an
option, or of an operand, is looked at only when the next argument has been recognized, so an
argument that is not known is reported before a bad value right in front of it.
-/

namespace SnippetLint

/-- What is analyzed, and how it is reported. -/
structure AnalyzeArguments where
  /-- The files and directories to analyze; a dash alone stands for the standard input. -/
  paths : List String
  /-- The language of all files, in place of the one that their names tell. -/
  language : Option String := none
  config : Option String := none
  format : String := "pretty"
  minQuality : Option UInt8 := none
  deriving Repr, DecidableEq

/-- What is generated, and where it goes. -/
structure GenerateArguments where
  prompt : String
  language : String
  /-- The file to write; without one the code is printed. -/
  output : Option String := none
  deriving Repr, DecidableEq

/-- Which rules are listed. -/
structure RulesArguments where
  language : Option String := none
  config : Option String := none
  deriving Repr, DecidableEq

/-- What the program is asked to do. -/
inductive Command
  | analyze (arguments : AnalyzeArguments)
  | generate (arguments : GenerateArguments)
  | rules (arguments : RulesArguments)
  deriving Repr, DecidableEq

/-- A command, and how often it was asked to tell more about its work. -/
structure Invocation where
  verbosity : Nat
  command : Command
  deriving Repr, DecidableEq

/-- The reasons for which arguments ask for no command. -/
inductive Usage
  /-- Help is asked for. -/
  | help
  /-- The version is asked for. -/
  | version
  /-- There are no arguments at all. -/
  | noArguments
  | missingCommand
  | unknownCommand (name : String)
  | unknownArgument (argument : String)
  | missingArgument (name : String)
  /-- An option has no value, or a path is empty. -/
  | missingValue (name : String)
  | badNumber (name text : String)
  | repeatedOption (name : String)
  /-- An option that takes no value has one. -/
  | unwantedValue (name : String)
  deriving Repr, DecidableEq

/-- What is said about arguments that ask for no command. -/
def Usage.message : Usage → String
  | help | noArguments => textOfLines
    ["Rule-based snippet analyzer and template code generator", "",
      "Usage: " ++ programName ++ " [-v]... <COMMAND>", "",
      "  analyze [-l LANGUAGE] [-c CONFIG] [-f FORMAT] [-m MIN_QUALITY] PATHS...",
      "  generate -l LANGUAGE [-o OUTPUT] PROMPT",
      "  rules [-l LANGUAGE] [-c CONFIG]"]
  | version => programName ++ " " ++ programVersion ++ "\n"
  | missingCommand => "error: a command is required\n"
  | unknownCommand name => "error: unrecognized command '" ++ name ++ "'\n"
  | unknownArgument argument => "error: unexpected argument '" ++ argument ++ "' found\n"
  | missingArgument name => "error: the argument " ++ name ++ " is required\n"
  | missingValue name => "error: a value is required for " ++ name ++ "\n"
  | badNumber name text => "error: invalid value '" ++ text ++ "' for " ++ name ++ "\n"
  | repeatedOption name => "error: the argument " ++ name ++ " cannot be used multiple times\n"
  | unwantedValue name => "error: unexpected value for " ++ name ++ "\n"

namespace CommandLine

/-! ## What may be written -/

/-- An option. -/
inductive Opt
  | verbose
  | help
  | version
  | language
  | config
  | format
  | minQuality
  | output
  deriving Repr, DecidableEq

namespace Opt

/-- The letter of an option. -/
def letter : Opt → Char
  | verbose => 'v'
  | help => 'h'
  | version => 'V'
  | language => 'l'
  | config => 'c'
  | format => 'f'
  | minQuality => 'm'
  | output => 'o'

/-- The name of an option. -/
def name : Opt → String
  | verbose => "verbose"
  | help => "help"
  | version => "version"
  | language => "language"
  | config => "config"
  | format => "format"
  | minQuality => "min-quality"
  | output => "output"

/-- Whether an option has a value. -/
def takesValue : Opt → Bool
  | verbose | help | version => false
  | language | config | format | minQuality | output => true

/-- Whether the value of an option is a path. -/
def takesPath : Opt → Bool
  | config | output => true
  | _ => false

end Opt

/-- The name of a command. -/
inductive CommandName
  | analyze
  | generate
  | rules
  deriving Repr, DecidableEq

namespace CommandName

/-- The texts that name a command. -/
def names : CommandName → List String
  | analyze => ["analyze", "check"]
  | generate => ["generate"]
  | rules => ["rules"]

/-- The command that a text names. -/
def ofText? (s : String) : Option CommandName :=
  [analyze, generate, rules].find? fun c => c.names.contains s

/-- The options of a command. -/
def options : CommandName → List Opt
  | analyze => [.verbose, .help, .language, .config, .format, .minQuality]
  | generate => [.verbose, .help, .language, .output]
  | rules => [.verbose, .help, .language, .config]

/-- Whether a command takes another operand after some of them. -/
def takesOperand : CommandName → Nat → Bool
  | analyze, _ => true
  | generate, count => count == 0
  | rules, _ => false

end CommandName

/-- The options before a command. -/
def generalOptions : List Opt := [.verbose, .help, .version]

/-- A natural number below 256 in decimal digits, with any number of zeros in front. A plus sign
may stand before it, and before zero a minus sign. -/
def parseByte? (s : String) : Option UInt8 :=
  let (limit, digits) := match s.toList with
    | '+' :: digits => (256, digits)
    | '-' :: digits => (1, digits)
    | digits => (256, digits)
  if digits.isEmpty || !digits.all Char.isDigit then none
  else
    let n := digits.foldl (fun n c => 10 * n + (c.toNat - '0'.toNat)) 0
    if n < limit then some n.toUInt8 else none

/-! ## Reading arguments -/

/-- What has been read but not been looked at. -/
inductive Pending
  | nothing
  /-- An option that takes a value, with that value if it is there. -/
  | option (name : Opt) (value : Option String)
  /-- Operands that follow each other. -/
  | operands (values : List String)
  deriving Repr

/-- The arguments that have been read. -/
structure Reading where
  /-- The command that they belong to; without one they stand before the command. -/
  command : Option CommandName
  verbosity : Nat := 0
  values : List (Opt × String) := []
  operands : List String := []
  pending : Pending := .nothing
  /-- Nothing but operands follows. -/
  onlyOperands : Bool := false
  deriving Repr

namespace Reading

/-- The options that are known. -/
def options (r : Reading) : List Opt := r.command.elim generalOptions CommandName.options

/-- The value of an option. -/
def value? (r : Reading) (name : Opt) : Option String := r.values.lookup name

/-- Whether another operand can be taken. -/
def takesOperand (r : Reading) : Bool :=
  let pending := match r.pending with
    | .operands values => values.length
    | _ => 0
  r.command.any (·.takesOperand (r.operands.length + pending))

/-- Looks at a value of an option. -/
def setValue (r : Reading) (name : Opt) (value : String) : Except Usage Reading :=
  if (r.value? name).isSome then .error (.repeatedOption name.name)
  else if name.takesPath && value.isEmpty then .error (.missingValue name.name)
  else if name = .minQuality ∧ parseByte? value = none then .error (.badNumber name.name value)
  else .ok { r with values := (name, value) :: r.values }

/-- Looks at what has been read. Operands of the analysis are paths, so none of them is empty. -/
def settle (r : Reading) : Except Usage Reading :=
  let settled := { r with pending := .nothing }
  match r.pending with
  | .nothing => .ok r
  | .option name none => .error (.missingValue name.name)
  | .option name (some value) => settled.setValue name value
  | .operands values =>
    if r.command = some .analyze ∧ values.contains "" then .error (.missingValue "paths")
    else .ok { settled with operands := r.operands ++ values }

/-- Takes an option that has no value. -/
def takeFlag (r : Reading) (name : Opt) : Except Usage Reading := do
  let r ← r.settle
  match name with
  | .help => throw .help
  | .version => throw .version
  | _ => return { r with verbosity := r.verbosity + 1 }

/-- Takes an option with the value that is attached to it; without one, the value is the next
argument. -/
def takeOption (r : Reading) (name : Opt) (attached : Option String) : Except Usage Reading := do
  let r ← r.settle
  match attached with
  | some value => r.setValue name value
  | none => return { r with pending := .option name none }

/-- Takes options by their letters. A letter that takes a value has the rest of the argument for
it, without an equals sign in front. -/
def takeLetters (r : Reading) : List Char → Except Usage Reading
  | [] => .ok r
  | c :: rest =>
    match r.options.find? (·.letter == c) with
    | none => .error (.unknownArgument (.ofList ['-', c]))
    | some name =>
      if name.takesValue then
        r.takeOption name <|
          if rest.isEmpty then none
          else some (.ofList (if rest.head? = some '=' then rest.drop 1 else rest))
      else do takeLetters (← r.takeFlag name) rest

/-- Takes an option by its name, which may have a value after an equals sign. -/
def takeName (r : Reading) (text : List Char) : Except Usage Reading :=
  let name := text.takeWhile (· != '=')
  let attached := match text.dropWhile (· != '=') with
    | [] => none
    | _ :: value => some (String.ofList value)
  match r.options.find? (·.name.toList == name) with
  | none => .error (.unknownArgument (.ofList ('-' :: '-' :: name)))
  | some opt =>
    if opt.takesValue then r.takeOption opt attached
    else if attached.isSome then .error (.unwantedValue opt.name)
    else r.takeFlag opt

/-- Takes an operand. -/
def takeOperand (r : Reading) (argument : String) : Except Usage Reading :=
  if !r.takesOperand then .error (.unknownArgument argument)
  else match r.pending with
    | .operands values => .ok { r with pending := .operands (values ++ [argument]) }
    | _ => r.settle.map fun r => { r with pending := .operands [argument] }

/-- Takes an argument. One that is no option is the value of the option before it, if that has
none yet. -/
def take (r : Reading) (argument : String) : Except Usage Reading :=
  if r.onlyOperands then r.takeOperand argument
  else match argument.toList, r.pending with
    | ['-', '-'], _ => .ok { r with onlyOperands := true }
    | '-' :: '-' :: text, _ => r.takeName text
    | '-' :: c :: letters, _ => r.takeLetters (c :: letters)
    | _, .option name none => .ok { r with pending := .option name (some argument) }
    | _, _ => r.takeOperand argument

end Reading

/-- Reads the arguments of a command. -/
def readArguments (command : CommandName) (arguments : List String) : Except Usage Reading := do
  (← arguments.foldlM Reading.take { command := some command }).settle

/-- What the arguments of a command ask for. -/
def commandOf (command : CommandName) (r : Reading) : Except Usage Command :=
  match command with
  | .analyze =>
    if r.operands.isEmpty then .error (.missingArgument "paths")
    else .ok <| .analyze {
      paths := r.operands
      language := r.value? .language
      config := r.value? .config
      format := (r.value? .format).getD "pretty"
      minQuality := (r.value? .minQuality).bind parseByte? }
  | .generate =>
    match r.operands, r.value? .language with
    | prompt :: _, some language => .ok (.generate ⟨prompt, language, r.value? .output⟩)
    | [], _ => .error (.missingArgument "prompt")
    | _, none => .error (.missingArgument "language")
  | .rules => .ok (.rules ⟨r.value? .language, r.value? .config⟩)

/-! ## Reading all arguments -/

/-- What `help` and the names after it ask for. -/
def readHelp : List String → Usage
  | [] => .help
  | name :: rest =>
    if (CommandName.ofText? name).isNone && name != "help" then .unknownCommand name
    else match rest with
      | [] => .help
      | other :: _ => .unknownCommand other

/-- What is missing if there is no command after the options. -/
def missing (r : Reading) : Usage := if r.verbosity = 0 then .noArguments else .missingCommand

/-- Reads the arguments up to the name of a command, and those of the command after it. Requests to
tell more count after the name of the command if there are any, and before it otherwise. -/
def readAll (general : Reading) : List String → Except Usage Invocation
  | [] => .error (missing general)
  | argument :: rest =>
    match CommandName.ofText? argument, argument.toList, rest with
    | some command, _, _ => do
      let r ← readArguments command rest
      return {
        verbosity := if r.verbosity = 0 then general.verbosity else r.verbosity
        command := ← commandOf command r }
    | none, ['-', '-'], [] => .error (missing general)
    | none, ['-', '-'], name :: _ =>
      .error <|
        if (CommandName.ofText? name).isSome || name == "help" then .unknownArgument name
        else .unknownCommand name
    | none, '-' :: _ :: _, _ => do readAll (← general.take argument) rest
    | none, _, _ =>
      .error (if argument == "help" then readHelp rest else .unknownCommand argument)

end CommandLine

/-- What the arguments of the program ask for. -/
def Invocation.ofArguments (arguments : List String) : Except Usage Invocation :=
  CommandLine.readAll { command := none } arguments

end SnippetLint
