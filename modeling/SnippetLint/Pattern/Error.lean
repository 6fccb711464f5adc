/-!
# Why a pattern is refused
-/

namespace SnippetLint.Pattern

/-- The reasons for which a pattern is refused. -/
inductive PatternError
  | unclosedGroup
  | unopenedGroup
  | unclosedClass
  | nothingToRepeat
  | badRepeatCount
  | badRange
  | notInClass
  | unfinishedEscape
  | unknownEscape (c : Char)
  | backreference
  | lookAround
  | badCodePoint
  | unknownProperty (name : String)
  | badFlags
  | badGroupName
  | repeatedGroupName (name : String)
  | splitsCharacters
  | tooDeep
  | tooLarge
  deriving Repr, DecidableEq

/-- What is said about a refused pattern. -/
def PatternError.message : PatternError → String
  | unclosedGroup => "unclosed group"
  | unopenedGroup => "unopened group"
  | unclosedClass => "unclosed character class"
  | nothingToRepeat => "repetition operator missing expression"
  | badRepeatCount => "invalid repetition count"
  | badRange => "invalid character class range"
  | notInClass => "escape sequence not allowed in a character class"
  | unfinishedEscape => "incomplete escape sequence"
  | unknownEscape c => "unrecognized escape sequence \\".push c
  | backreference => "backreferences are not supported"
  | lookAround => "look-around is not supported"
  | badCodePoint => "invalid hexadecimal code point"
  | unknownProperty name => "unknown character property " ++ name
  | badFlags => "invalid flags"
  | badGroupName => "invalid group name"
  | repeatedGroupName name => "duplicate group name " ++ name
  | splitsCharacters => "pattern can match invalid UTF-8"
  | tooDeep => "pattern is nested too deeply"
  | tooLarge => "pattern is too large"

end SnippetLint.Pattern
