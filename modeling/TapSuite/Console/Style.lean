/-!
# Styled text

Terminal escapes put a text into a colour or into bold letters:

    ESC [ codes m text ESC [ 0 m

A reset inside the text would end the style too early, so the style begins anew after it.  Where
colours are off the text is left alone.
-/

namespace TapSuite

/-! ## Styles -/

inductive Colour where
  | red
  | green
  | yellow
  | blue
  | cyan
  deriving DecidableEq

def Colour.code : Colour → String
  | .red => "31"
  | .green => "32"
  | .yellow => "33"
  | .blue => "34"
  | .cyan => "36"

/-- How a text looks: in a colour, in bold letters, or both. -/
inductive Style where
  | bold
  | colour (c : Colour)
  | boldColour (c : Colour)
  deriving DecidableEq

def Style.codes : Style → String
  | .bold => "1"
  | .colour c => c.code
  | .boldColour c => "1;" ++ c.code

/-! ## Escapes -/

/-- The escape that begins a style. -/
def Style.start (s : Style) : List Char := '\x1b' :: '[' :: s.codes.toList ++ ['m']

/-- The escape that ends every style. -/
def resetEscape : List Char := ['\x1b', '[', '0', 'm']

/-- The text with an escape repeated after each reset in it. -/
def renew (start : List Char) : List Char → List Char
  | '\x1b' :: '[' :: '0' :: 'm' :: t => resetEscape ++ start ++ renew start t
  | c :: t => c :: renew start t
  | [] => []

def Style.paint (colours : Bool) (s : Style) (text : String) : String :=
  if colours then String.ofList (s.start ++ renew s.start text.toList ++ resetEscape) else text

end TapSuite
