import SnippetLint.Assistant
import SnippetLint.Config.Yaml
import SnippetLint.File.System

/-!
# Failures

The reasons for which the program gives up, and what is said about each.
-/

namespace SnippetLint

/-- The reasons for which the program gives up. -/
inductive Failure
  | unknownFormat (format : String)
  | unreadableConfig (path : String) (reason : FileError)
  | malformedConfig (path : String) (reason : Yaml.YamlError)
  | invalidConfig (reason : ConfigError)
  | minQualityTooHigh
  | languageNeeded
  | inaccessible (path : String) (reason : FileError)
  | unreadable (path : String) (reason : FileError)
  | unreadableInput
  | blank (reason : BlankInput)
  | outputExists (path : String)
  | directoryNotMade (path : String) (reason : FileError)
  | notWritten (path : String) (reason : FileError)
  deriving Repr, DecidableEq

/-- What is said when the program gives up. -/
def Failure.message : Failure → Message
  | unknownFormat format =>
    { text := "invalid format " ++ quoted format ++ ", must be 'pretty' or 'json'" }
  | unreadableConfig path reason => { text := "reading config " ++ path ++ ": " ++ reason.message }
  | malformedConfig path reason =>
    { text := "parsing config " ++ path ++ ": ", detail := some reason.message }
  | invalidConfig reason => reason.message.within "invalid config"
  | minQualityTooHigh => { text := "--min-quality must be between 0 and 100" }
  | languageNeeded => { text := "--language is required when reading stdin" }
  | inaccessible path reason =>
    { text := "cannot access path " ++ path ++ ": " ++ reason.message }
  | unreadable path reason => { text := "reading " ++ path ++ ": " ++ reason.message }
  | unreadableInput => { text := "reading stdin: " ++ FileError.notText.message }
  | blank reason => { text := reason.message }
  | outputExists path =>
    { text := "file already exists: " ++ path ++
        "\nRemove it or use --output to specify a different path" }
  | directoryNotMade path reason =>
    { text := "creating directory " ++ path ++ ": " ++ reason.message }
  | notWritten path reason => { text := "writing " ++ path ++ ": " ++ reason.message }

end SnippetLint
