import SnippetLint.Glob.Reader
import SnippetLint.Glob.Written
import SnippetLint.Pattern.Reader

/-!
# Sets of globs

Globs that are used together. Those that ask for something simple are decided without a regular
expression; the regular expressions of the others must not be nested too deeply.
-/

namespace SnippetLint.Glob

/-- A glob whose regular expression is nested too deeply. -/
inductive DepthError
  /-- One that asks for an extension and more, by its regular expression. -/
  | expression (written : String)
  /-- One that asks for nothing simple, by its place among those. -/
  | number (n : Nat)
  deriving Repr, DecidableEq

/-- What is said about a glob whose regular expression is nested too deeply. -/
def DepthError.message : DepthError → String
  | expression written => "error parsing glob '" ++ written ++ "': error parsing pattern 0"
  | number n => "error parsing pattern " ++ decimal n

namespace Matcher

/-- The text of the regular expression of a glob. -/
def writtenText (m : Matcher) : String := .ofList (written m.tokens)

/-- Whether the regular expression of a glob is nested too deeply. -/
def isTooDeep (m : Matcher) : Bool := Pattern.depthLimit < depth m.tokens

/-- Whether a glob asks for an extension and more. -/
def asksForExtensionAndMore (m : Matcher) : Bool :=
  match m.strategy with
  | .extensionAndMore _ => true
  | _ => false

/-- The globs that ask for nothing simple. -/
def others (globs : List Matcher) : List Matcher := globs.filter (·.strategy == .other)

/-- What keeps globs from being used together, if anything does. -/
def depthError? (globs : List Matcher) : Option DepthError :=
  match globs.find? fun m => m.asksForExtensionAndMore && m.isTooDeep with
  | some m => some (.expression m.writtenText)
  | none => ((others globs).findIdx? isTooDeep).map .number

end Matcher

end SnippetLint.Glob
