import SnippetLint.Pattern.Error
import SnippetLint.Unicode.Blank

/-!
# Flags of a pattern

Flags change how the rest of a group is read. `readFlags` reads the flags between `(?` and the
`:` or `)` after them.
-/

namespace SnippetLint.Pattern

/-- How a part of a pattern is read. -/
structure Flags where
  ignoreCase : Bool := false
  multiLine : Bool := false
  dotAll : Bool := false
  swapGreed : Bool := false
  unicode : Bool := true
  crlf : Bool := false
  verbose : Bool := false
  deriving Repr, DecidableEq

namespace Flags

/-- Switches the flag of a letter. -/
def set? (flags : Flags) (letter : Char) (on : Bool) : Option Flags :=
  match letter with
  | 'i' => some { flags with ignoreCase := on }
  | 'm' => some { flags with multiLine := on }
  | 's' => some { flags with dotAll := on }
  | 'U' => some { flags with swapGreed := on }
  | 'u' => some { flags with unicode := on }
  | 'R' => some { flags with crlf := on }
  | 'x' => some { flags with verbose := on }
  | _ => none

/-- Switches flags by the letters of a text, on up to a dash and off after it. No letter may come
twice, no dash may come twice, and a dash must not be the last. -/
def apply (flags : Flags) (on : Bool) (seen : List Char) : List Char → Except PatternError Flags
  | [] => if seen.head? = some '-' then .error .badFlags else .ok flags
  | c :: rest =>
    if seen.contains c then .error .badFlags
    else if c = '-' then flags.apply false (c :: seen) rest
    else match flags.set? c on with
      | some flags => flags.apply on (c :: seen) rest
      | none => .error .badFlags

end Flags

/-- Leaves out blanks and comments, which run from `#` to the end of the line. -/
def skipComments (inComment : Bool) : List Char → List Char
  | [] => []
  | c :: rest =>
    if inComment then skipComments (c != '\n') rest
    else if Unicode.isBlank c then skipComments false rest
    else if c = '#' then skipComments true rest
    else c :: rest

/-- Leaves out what a verbose pattern has for its readers only. -/
def skipIgnored (verbose : Bool) (s : List Char) : List Char :=
  if verbose then skipComments false s else s

end SnippetLint.Pattern
