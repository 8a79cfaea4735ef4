import TapSuite.Config.Printer
import TapSuite.Console.Lines
import TapSuite.Console.Style
import TapSuite.Locale.Basic
import TapSuite.Workspace.Files

/-!
# The init subcommand

Writes a file with the default settings.  With questions it first needs a terminal to ask them on;
without a terminal it gives up after its greeting.
-/

namespace TapSuite.Init

/-- Why no file was written. -/
inductive Problem where
  | notATerminal
  | unwritable (path : String) (fault : Fault)
  deriving DecidableEq

/-- The text of a problem with its causes, in a language. -/
def Problem.message (locale : String) : Problem → String
  | .notATerminal =>
    Locale.say locale "init.confirmation_failed" ++ ": IO error: not a terminal: not a terminal"
  | .unwritable path fault =>
    Locale.say locale "init.write_failed" [("path", path)] ++ ": " ++ fault.message

/-- What the subcommand prints, what it leaves in the workspace, and how it ends. -/
structure Outcome where
  out : List String := []
  workspace : Workspace
  result : Except Problem Unit

def greeting (colours : Bool) (locale : String) : List String :=
  ["", (Style.boldColour .cyan).paint colours (Locale.say locale "init.welcome"),
    Locale.say locale "init.description"]

def createdLines (colours : Bool) (locale path : String) : List String :=
  ["", (Style.colour .green).paint colours "✔" ++ " " ++
      Style.bold.paint colours (Locale.say locale "init.success_created" [("path", path)]),
    Locale.say locale "init.usage_hint"]

def write (colours : Bool) (locale : String) (w : Workspace) (path : String) (c : Config) :
    Outcome :=
  match w.writeText path c.render with
  | .error fault => { workspace := w, result := .error (.unwritable path fault) }
  | .ok w => { out := createdLines colours locale path, workspace := w, result := .ok () }

/-- The init subcommand where there is no terminal. -/
def command (colours : Bool) (locale : String) (w : Workspace) (path : String)
    (nonInteractive : Bool) : Outcome :=
  if nonInteractive then write colours locale w path {}
  else { out := greeting colours locale, workspace := w, result := .error .notATerminal }

end TapSuite.Init
