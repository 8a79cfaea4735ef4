import TapSuite.Run.Command

/-!
# Stages of a run

What has to succeed before a run has a verdict, one stage after the other.  Each stage is looked at
by itself, as soon as there is what it works on, whatever becomes of the stages beside it; a run
ends with the error of the first stage that fails.

    load, requirements, reporter, listing, registration, command line, launch
-/

namespace TapSuite.Run

/-- A step of the setup. -/
inductive Stage where
  | load
  | requirements
  | reporter
  | listing
  | registration
  | commandLine
  | launch
  deriving DecidableEq

def Stage.all : List Stage :=
  [.load, .requirements, .reporter, .listing, .registration, .commandLine, .launch]

def Stage.index (stage : Stage) : Nat := Stage.all.idxOf stage

/-- Whether a stage fails with an error. -/
def Stage.Fails (s : Surroundings) (w : Workspace) (a : Cli.RunArguments) (e : SetupError) :
    Stage → Prop
  | .load => Config.load w a.config a.configNamed = .error e
  | .requirements =>
    ∃ c, Config.load w a.config a.configNamed = .ok c ∧
      (c.apply a.overrides).validate a.config = .error e
  | .reporter => ∃ c, settings w a = .ok c ∧ ReporterKind.named c.reporter.name = .error e
  | .listing => ∃ c, settings w a = .ok c ∧ w.discover c.suitesDir c.suffix = .error e
  | .registration =>
    ∃ c suites, settings w a = .ok c ∧ w.discover c.suitesDir c.suffix = .ok suites ∧
      ({} : Registry).registerAll (suites.map (·.path)) = .error e
  | .commandLine =>
    ∃ c problem, settings w a = .ok c ∧
      Command.parse s.environment c.command = .error problem ∧ e = .engine problem
  | .launch =>
    ∃ c suites line suite, settings w a = .ok c ∧
      w.discover c.suitesDir c.suffix = .ok suites ∧
      Command.parse s.environment c.command = .ok line ∧ suite ∈ suites ∧
      Engine.runSuite s.launch line suite = .error e

/-- Whether a stage is the first that fails, with an error. -/
def Stage.FailsFirst (s : Surroundings) (w : Workspace) (a : Cli.RunArguments) (e : SetupError)
    (stage : Stage) : Prop :=
  stage.Fails s w a e ∧
    ∀ earlier : Stage, earlier.index < stage.index → ∀ e', ¬ earlier.Fails s w a e'

end TapSuite.Run
