import TapSuite.Text.Blank

/-!
# Settings

The settings of a run come in three layers: documented defaults, a configuration file, and values
given on the command line; the later layer wins, setting by setting.

    (c.apply o).suffix = o.suffix.getD c.suffix
    c.violation? = none ↔ all four requirements hold
-/

namespace TapSuite

/-! ## Types -/

/-- Which reporter a run uses, and where it writes. -/
structure ReporterConfig where
  name : String := "html"
  reportDir : String := "/report"
  /-- The report's file name without its extension. -/
  reportFilename : String := "suite-report"
  deriving DecidableEq

/-- The settings of a run. -/
structure Config where
  /-- The language of messages; the system's if it is not given. -/
  language : Option String := none
  suitesDir : String := "suites"
  /-- The ending of a suite file's name. -/
  suffix : String := ".js"
  /-- The interpreter's command line, which gets the suite's path as its last argument. -/
  command : String := "node --test --test-reporter=tap"
  /-- How many suites may run at the same time. -/
  jobs : UInt64 := 1
  /-- The exit code of a run with failures. -/
  failureExitCode : UInt8 := 1
  reporter : ReporterConfig := {}
  deriving DecidableEq

/-- The settings that a command line may give. -/
structure Overrides where
  suitesDir : Option String := none
  suffix : Option String := none
  command : Option String := none
  jobs : Option UInt64 := none
  reporter : Option String := none
  reportDir : Option String := none
  deriving DecidableEq

/-! ## Merging -/

/-- The settings with those given on the command line in their place. -/
def Config.apply (c : Config) (o : Overrides) : Config :=
  { c with
    suitesDir := o.suitesDir.getD c.suitesDir
    suffix := o.suffix.getD c.suffix
    command := o.command.getD c.command
    jobs := o.jobs.getD c.jobs
    reporter :=
      { c.reporter with
        name := o.reporter.getD c.reporter.name
        reportDir := o.reportDir.getD c.reporter.reportDir } }

/-! ## Requirements -/

/-- A requirement that settings can violate. -/
inductive Violation where
  | emptySuffix
  | emptyCommand
  | noJobs
  | zeroExitCode
  deriving DecidableEq

def Violation.message : Violation → String
  | .emptySuffix => "`suffix` must not be empty"
  | .emptyCommand => "`command` must not be empty"
  | .noJobs => "`jobs` must be at least 1"
  | .zeroExitCode => "`failure_exit_code` must be non-zero"

/-- The first requirement that settings violate, if there is one. -/
def Config.violation? (c : Config) : Option Violation :=
  if c.suffix.isEmpty then some .emptySuffix
  else if (Text.trim c.command.toList).isEmpty then some .emptyCommand
  else if c.jobs = 0 then some .noJobs
  else if c.failureExitCode = 0 then some .zeroExitCode
  else none

end TapSuite
