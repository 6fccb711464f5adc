/-!
# Why a YAML text is refused
-/

namespace SnippetLint.Yaml

/-- The reasons for which a YAML text cannot be read. -/
inductive YamlError
  | forbiddenCharacter (c : Char)
  | unexpectedCharacter (c : Char)
  | unclosedQuote
  | documentMarkInQuote
  | badEscape
  | colonInFlow
  | tabAsIndentation
  | badBlockHeader
  | badDirective
  | badAnchor
  | badTag
  | undefinedTagHandle
  | missingColon
  | entryNotAllowed
  | keyNotAllowed
  | valueNotAllowed
  | missingNode
  | missingEntry
  | missingSeparator
  | missingDocumentStart
  | unknownAnchor (name : String)
  | severalDocuments
  | expected (what : String)
  | missingField (name : String)
  | repeatedField (name : String)
  | outOfRange (n : Nat)
  | unknownName (name : String)
  | tooMuchRepeated
  deriving Repr, DecidableEq

/-- What is said about a YAML text that cannot be read. -/
def YamlError.message : YamlError → String
  | forbiddenCharacter _ => "control characters are not allowed"
  | unexpectedCharacter _ => "found character that cannot start any token"
  | unclosedQuote => "found unexpected end of stream in a quoted scalar"
  | documentMarkInQuote => "found unexpected document indicator in a quoted scalar"
  | badEscape => "found unknown escape character"
  | colonInFlow => "found unexpected ':' in a plain scalar"
  | tabAsIndentation => "found a tab character that violates indentation"
  | badBlockHeader => "did not find expected comment or line break after a block scalar header"
  | badDirective => "found an invalid directive"
  | badAnchor => "did not find expected alphabetic or numeric character in an anchor"
  | badTag => "found an invalid tag"
  | undefinedTagHandle => "found undefined tag handle"
  | missingColon => "could not find expected ':'"
  | entryNotAllowed => "block sequence entries are not allowed in this context"
  | keyNotAllowed => "mapping keys are not allowed in this context"
  | valueNotAllowed => "mapping values are not allowed in this context"
  | missingNode => "did not find expected node content"
  | missingEntry => "did not find expected key or '-' indicator"
  | missingSeparator => "did not find expected ',' or closing bracket"
  | missingDocumentStart => "did not find expected <document start>"
  | unknownAnchor name => "unknown anchor " ++ name
  | severalDocuments => "more than one document"
  | expected what => "expected " ++ what
  | missingField name => "missing field " ++ name
  | repeatedField name => "duplicate field " ++ name
  | outOfRange _ => "number out of range"
  | unknownName name => "unknown variant " ++ name
  | tooMuchRepeated => "repetition limit exceeded"

end SnippetLint.Yaml
