import TapSuite.Cli.Arguments
import TapSuite.Config.Load
import TapSuite.Engine.Command
import TapSuite.Run.Pipeline

/-!
# The run subcommand

The settings are loaded, merged with the command line's and checked again; the language is settled;
the reporter is looked up, so that an unknown name fails before any suite runs; then the suites run
in the command engine.

A language on the command line beats the one in the settings, which beats the system's.
-/

namespace TapSuite

/-- What surrounds a run. -/
structure Surroundings where
  environment : Command.Environment := []
  launch : Process.Launcher
  choices : List Nat := []
  startedAt : Timestamp := {}
  duration : Span := {}
  colours : Bool := false
  /-- The language of lines that are printed without one of their own. -/
  locale : String := "en"

namespace Run

/-! ## Settings -/

/-- The settings of a run: those of the file, merged with the command line's. -/
def settings (w : Workspace) (a : Cli.RunArguments) : Except SetupError Config :=
  match Config.load w a.config a.configNamed with
  | .error e => .error e
  | .ok c =>
    match (c.apply a.overrides).validate a.config with
    | .error e => .error e
    | .ok () => .ok (c.apply a.overrides)

/-- The languages of a run: that of the run itself, and that of lines without one of their own.
`forced` says that the command line gives the language. -/
def languages (c : Config) (language : String) (forced : Bool) (standing : String) :
    String × String :=
  match c.language, forced with
  | some configured, false => (Locale.resolve configured, Locale.resolve configured)
  | _, _ => (language, standing)

def engineSetting (s : Surroundings) (c : Config) (standing : String) : Engine.Setting where
  command := c.command
  jobs := c.jobs.toNat
  environment := s.environment
  launch := s.launch
  choices := s.choices
  startedAt := s.startedAt
  duration := s.duration
  locale := standing
  colours := s.colours

/-! ## The subcommand -/

def reporterLine (d : Display) (kind : ReporterKind) : String :=
  Locale.say d.locale "run.using_reporter"
    [("name", (Style.colour .yellow).paint d.colours kind.name)]

/-- The run with its settings, in its languages. -/
def withSettings (s : Surroundings) (w : Workspace) (c : Config) (locale standing : String) :
    RunOutcome (Summary × ExitStatus) :=
  let d : Display := ⟨locale, s.colours⟩
  match ReporterKind.named c.reporter.name with
  | .error e => failed w e
  | .ok kind =>
    after [reporterLine d kind] <|
      pipeline d c (Engine.command (engineSetting s c standing)) {}
        (kind.reporter s.colours locale c.reporter) w

/-- The run subcommand; the answer is its outcome and the language of lines without one of their
own afterwards. -/
def command (s : Surroundings) (w : Workspace) (a : Cli.RunArguments) (language : String)
    (forced : Bool) : RunOutcome (Summary × ExitStatus) × String :=
  match settings w a with
  | .error e => (failed w e, s.locale)
  | .ok c =>
    let (locale, standing) := languages c language forced s.locale
    (withSettings s w c locale standing, standing)

end Run

end TapSuite
