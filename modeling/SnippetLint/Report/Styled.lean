/-!
# Styled texts

A text whose pieces may be styled. A terminal gets the styles as escape sequences around the
pieces; without them the pieces stand as they are, so styles carry no content.
-/

namespace SnippetLint

/-- How a piece of text looks. -/
inductive Style
  | cyanBold
  | blueBold
  | greenBold
  | bold
  | dimmed
  | red
  | green
  | yellow
  | blue
  deriving Repr, DecidableEq

/-- The codes of a style. -/
def Style.codes : Style → String
  | cyanBold => "1;36"
  | blueBold => "1;34"
  | greenBold => "1;32"
  | bold => "1"
  | dimmed => "2"
  | red => "31"
  | green => "32"
  | yellow => "33"
  | blue => "34"

/-- A piece of text with one look. -/
structure Piece where
  style : Option Style
  text : String
  deriving Repr, DecidableEq

/-- A text made of pieces. -/
abbrev StyledText := List Piece

/-- A piece without a style. -/
def plain (text : String) : Piece := ⟨none, text⟩

/-- A piece with a style. -/
def styled (style : Style) (text : String) : Piece := ⟨some style, text⟩

/-- The escape sequence that ends every style. -/
def resetSequence : List Char := ['\x1b', '[', '0', 'm']

/-- The escape sequence that begins a style. -/
def Style.sequence (s : Style) : List Char := '\x1b' :: '[' :: s.codes.toList ++ ['m']

/-- A text in which a style begins anew after each sequence that ends it. -/
def resume (opening : List Char) : List Char → List Char
  | '\x1b' :: '[' :: '0' :: 'm' :: rest => resetSequence ++ opening ++ resume opening rest
  | c :: rest => c :: resume opening rest
  | [] => []

/-- What is written for a piece. Even an empty piece has its escape sequences, and those in its text
do not end its style. -/
def Piece.render (color : Bool) (p : Piece) : String :=
  match p.style with
  | some style =>
    if color then
      let opening := style.sequence
      .ofList (opening ++ resume opening p.text.toList ++ resetSequence)
    else p.text
  | none => p.text

/-- What is written for a text. -/
def StyledText.render (color : Bool) (t : StyledText) : String :=
  String.join (t.map (Piece.render color))

end SnippetLint
