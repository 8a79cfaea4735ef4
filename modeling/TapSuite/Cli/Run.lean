import TapSuite.Cli.Help
import TapSuite.Cli.Language
import TapSuite.Locale.System
import TapSuite.Run.Command
import TapSuite.Run.Init

/-!
# The program

A command line, read in an environment and a workspace: the language is settled first, then the
command line is read, and what it asks for is done.

Help and version end with code 0, mistakes on the command line and failures of the setup with
code 2, and a run with the code of its status.
-/

namespace TapSuite.Cli

/-- What the program prints, what it leaves in the workspace, and its exit code. -/
structure Ended where
  code : UInt8
  out : String := ""
  err : String := ""
  workspace : Workspace

/-- Whether an environment asks for colours in reports where there is no terminal. -/
def forcesColours (env : Command.Environment) : Bool :=
  match env.lookup "CLICOLOR_FORCE" with
  | some value => value ≠ "0"
  | none => false

/-- Whether an environment asks for colours in help texts and complaints where there is no
terminal. -/
def coloursHelp (env : Command.Environment) : Bool :=
  (env.lookup "CLICOLOR_FORCE").any (!·.isEmpty) && (env.lookup "NO_COLOR").all (·.isEmpty)

/-- The language that the words of a command line or else the system ask for. -/
def language (env : Command.Environment) (words : List String) : String :=
  Locale.resolve <|
    (languageOption? words).getD ((Locale.system? env).getD Locale.fallback)

/-- The line on the error stream about what ended a run. -/
def errorLine (colours : Bool) (message : String) : String :=
  (Style.boldColour .red).paint colours "Error:" ++ " " ++ message

/-- The end of a command line that names no command. -/
def endOfStop (colours : Bool) (locale : String) (w : Workspace) : Stop → Ended
  | .help level => { code := 0, out := (level.helpPage locale).shown colours, workspace := w }
  | .version => { code := 0, out := printed [programName ++ " " ++ version], workspace := w }
  | .usage c => { code := setupFailureCode, err := c.text.shown colours, workspace := w }

def endOfRun (colours : Bool) (o : RunOutcome (Summary × ExitStatus)) : Ended :=
  match o.result with
  | .ok (_, status) =>
    { code := status.code, out := printed o.out, err := printed o.err, workspace := o.workspace }
  | .error e =>
    { code := setupFailureCode, out := printed o.out,
      err := printed (o.err ++ [errorLine colours e.chain]), workspace := o.workspace }

def endOfInit (colours : Bool) (locale : String) (o : Init.Outcome) : Ended :=
  match o.result with
  | .ok () => { code := 0, out := printed o.out, workspace := o.workspace }
  | .error p =>
    { code := setupFailureCode, out := printed o.out,
      err := printed [errorLine colours (p.message locale)], workspace := o.workspace }

/-- What a command line asks for, done in a language. -/
def perform (s : Surroundings) (w : Workspace) (locale : String) (forced : Bool) :
    Request → Ended
  | .bare => endOfRun s.colours (Run.command s w {} locale forced).1
  | .run a => endOfRun s.colours (Run.command s w a locale forced).1
  | .init path nonInteractive =>
    endOfInit s.colours locale (Init.command s.colours locale w path nonInteractive)

/-- The program; the first word of its command line is its name. -/
def run (s : Surroundings) (w : Workspace) (words : List String) : Ended :=
  let locale := language s.environment words
  let s := { s with locale, colours := forcesColours s.environment }
  match Arguments.read words with
  | .error stop => endOfStop (coloursHelp s.environment) locale w stop
  | .ok a => perform s w locale (languageOption? words).isSome a.request

end TapSuite.Cli
