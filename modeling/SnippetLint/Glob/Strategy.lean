import SnippetLint.Glob.Token

/-!
# How globs are decided

Many globs ask for something simple: a path, the name of a file in any directory, what a path
begins or ends with, or an extension. `strategy` finds what a glob asks for. Some of these ask for
the name of the file that a path leads to, and a path that ends with a double dot leads to none.

`Tally` counts the different questions that some globs ask.
-/

namespace SnippetLint.Glob

/-- What a glob asks for. -/
inductive Strategy
  /-- One name in any directory. -/
  | fileName (text : List Char)
  /-- One path. -/
  | wholePath (text : List Char)
  /-- An extension with its dot. -/
  | extension (text : List Char)
  /-- What a path begins with. -/
  | start (text : List Char)
  /-- What a path ends with. If the text has to begin a component, it has a slash in front, and the
  path may also be the text without that slash. -/
  | ending (text : List Char) (atComponent : Bool)
  /-- An extension with its dot, and something else. -/
  | extensionAndMore (text : List Char)
  /-- Anything else. -/
  | other
  deriving Repr, DecidableEq

/-- The characters of tokens that all stand for themselves. -/
def literals? : List Token → Option (List Char)
  | [] => some []
  | .literal c :: ts => (literals? ts).map (c :: ·)
  | _ => none

/-- The one name that a glob asks for in any directory. -/
def fileName? : List Token → Option (List Char)
  | .leading :: ts => (literals? ts).filter fun text => !text.isEmpty && !text.contains '/'
  | _ => none

/-- The one path that a glob asks for. -/
def wholePath? (ts : List Token) : Option (List Char) :=
  (literals? ts).filter (!·.isEmpty)

/-- The tokens without directories at the front. -/
def dropLeading : List Token → List Token
  | .leading :: ts => ts
  | ts => ts

/-- The extension that a glob asks for and nothing else. -/
def extension? (ts : List Token) : Option (List Char) :=
  match dropLeading ts with
  | .anyRun :: .literal '.' :: rest =>
    ((literals? rest).filter fun text => !text.contains '.' && !text.contains '/').map ('.' :: ·)
  | _ => none

/-- What a path has to begin with, if a glob asks for nothing else. -/
def start? (ts : List Token) : Option (List Char) :=
  match ts.getLast? with
  | some .anyRun => (literals? ts.dropLast).filter (!·.isEmpty)
  | some .trailing => (literals? ts.dropLast).map (· ++ ['/'])
  | _ => none

/-- What a path has to end with, if a glob asks for nothing else, and whether that has to begin a
component. -/
def ending? (ts : List Token) : Option (List Char × Bool) :=
  let found := match ts with
    | .leading :: .literal c :: rest => (literals? (.literal c :: rest)).map ('/' :: ·, true)
    | .leading :: .anyRun :: rest | .anyRun :: rest => (literals? rest).map (·, false)
    | _ => none
  found.filter fun (text, _) => !text.isEmpty && text != ['/']

/-- The extension at the front of tokens in reverse order, put before `tail`. -/
def extensionBefore? (tail : List Char) : List Token → Option (List Char)
  | .literal c :: ts =>
    if c = '/' then none
    else if c = '.' then some ('.' :: tail)
    else extensionBefore? (c :: tail) ts
  | _ => none

/-- What a glob asks for. -/
def strategy (ts : List Token) : Strategy :=
  let found :=
    (fileName? ts).map Strategy.fileName <|>
    (wholePath? ts).map .wholePath <|>
    (extension? ts).map .extension <|>
    (start? ts).map .start <|>
    (ending? ts).map (fun (text, atComponent) => .ending text atComponent) <|>
    (extensionBefore? [] ts.reverse).map .extensionAndMore
  found.getD .other

namespace Strategy

/-- Whether the name of a file is looked at. -/
def asksForName : Strategy → Bool
  | fileName _ | extension _ | extensionAndMore _ => true
  | wholePath _ | start _ | ending _ _ | other => false

/-- The paths that a glob asks for one by one. -/
def paths : Strategy → List (List Char)
  | wholePath text => [text]
  | ending text true => [text.drop 1]
  | _ => []

end Strategy

/-! ## Counting -/

/-- How many questions of each kind some globs ask. A path, a name or an extension that several of
them ask for counts once. -/
structure Tally where
  wholePaths : Nat
  fileNames : Nat
  extensions : Nat
  starts : Nat
  endings : Nat
  extensionsAndMore : Nat
  others : Nat
  deriving Repr, DecidableEq

/-- The number of different texts that are found. -/
def countDistinct (find : Strategy → List (List Char)) (strategies : List Strategy) : Nat :=
  (strategies.flatMap find).eraseDups.length

/-- Counts the questions of globs. -/
def Tally.ofStrategies (strategies : List Strategy) : Tally where
  wholePaths := countDistinct Strategy.paths strategies
  fileNames := countDistinct (fun | .fileName text => [text] | _ => []) strategies
  extensions := countDistinct (fun | .extension text => [text] | _ => []) strategies
  starts := strategies.countP fun | .start _ => true | _ => false
  endings := strategies.countP fun | .ending _ _ => true | _ => false
  extensionsAndMore :=
    countDistinct (fun | .extensionAndMore text => [text] | _ => []) strategies
  others := strategies.countP fun | .other => true | _ => false

end SnippetLint.Glob
