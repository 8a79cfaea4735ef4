import TapSuite.Console.Controls

/-!
# Styled texts of the command line

Help texts and complaints are sequences of spans.  A span with a look stands between the escapes of
the look and one escape that ends it:

    ESC[1m ESC[4m Usage: ESC[0m

Where colours are off the text loses these escapes, and any others that it may hold.
-/

namespace TapSuite.Cli

/-- How a span looks. -/
inductive Look where
  | plain
  /-- A title, such as `Usage:`. -/
  | title
  /-- What is typed as it stands. -/
  | literal
  /-- What could be typed instead. -/
  | valid
  /-- What was typed and should not have been. -/
  | invalid
  | error
  deriving DecidableEq

/-- The codes of a look, each for an escape of its own. -/
def Look.codes : Look → List String
  | .plain => []
  | .title => ["1", "4"]
  | .literal => ["1"]
  | .valid => ["32"]
  | .invalid => ["33"]
  | .error => ["1", "31"]

/-- A text of one look. -/
structure Span where
  look : Look := .plain
  text : String
  deriving DecidableEq

/-- A text of spans. -/
abbrev Rich := List Span

def plainSpan (text : String) : Span := { text }

def codeEscape (code : String) : String := String.ofList ['\x1b', '['] ++ code ++ "m"

def Span.escaped (s : Span) : String :=
  if s.look = .plain then s.text
  else String.join (s.look.codes.map codeEscape) ++ s.text ++ codeEscape "0"

def Rich.text (r : Rich) : String := String.join (r.map (·.text))

def Rich.shown (colours : Bool) (r : Rich) : String :=
  let escaped := String.join (r.map Span.escaped)
  if colours then escaped else String.ofList (withoutControls escaped.toList)

end TapSuite.Cli
