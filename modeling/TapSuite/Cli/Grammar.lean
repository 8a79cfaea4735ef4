/-!
# The grammar of the command line

A command line has two levels: the program's own options, and then a subcommand with options of its
own.

    program [OPTIONS] [run [OPTIONS] | init [OPTIONS] | help [COMMAND]]

No level takes words that are not options, except for the names of subcommands.
-/

namespace TapSuite.Cli

/-! ## Options -/

/-- What an option is for, and so what its value has to be. -/
inductive OptKind where
  /-- Any text. -/
  | text
  /-- Any text but the empty one. -/
  | path
  /-- A number below 2^64. -/
  | count
  | flag
  | help
  | version
  deriving DecidableEq

/-- An option; `about` is the key of the message that describes it. -/
structure Opt where
  long : String
  short : Option Char := none
  kind : OptKind := .text
  /-- What usage texts call the value. -/
  valueName : String := ""
  about : String := ""
  /-- The value of an option that is not given. -/
  default? : Option String := none
  deriving DecidableEq

def Opt.takesValue (o : Opt) : Bool :=
  match o.kind with
  | .text => true
  | .path => true
  | .count => true
  | _ => false

/-- The option as usage texts name it. -/
def Opt.usage (o : Opt) : String :=
  "--" ++ o.long ++ if o.takesValue then " <" ++ o.valueName ++ ">" else ""

def programName : String := "suite-runner"

/-- The file that settings are read from if no other is named. -/
def defaultConfig : String := "SuiteRunner.toml"

def langOpt : Opt := { long := "lang", valueName := "LANGUAGE", about := "cli.lang" }

def configOpt : Opt :=
  { long := "config", short := some 'c', kind := .path, valueName := "CONFIG",
    about := "cli.arg_config", default? := some defaultConfig }

def suitesDirOpt : Opt :=
  { long := "suites-dir", short := some 'd', kind := .path, valueName := "DIR",
    about := "cli.arg_suites_dir" }

def suffixOpt : Opt := { long := "suffix", valueName := "SUFFIX", about := "cli.arg_suffix" }

def commandOpt : Opt := { long := "command", valueName := "COMMAND", about := "cli.arg_command" }

def jobsOpt : Opt :=
  { long := "jobs", short := some 'j', kind := .count, valueName := "JOBS",
    about := "cli.arg_jobs" }

def reporterOpt : Opt :=
  { long := "reporter", short := some 'r', valueName := "REPORTER", about := "cli.arg_reporter" }

def reportDirOpt : Opt :=
  { long := "report-dir", kind := .path, valueName := "REPORT_DIR", about := "cli.arg_report_dir" }

def nonInteractiveOpt : Opt :=
  { long := "non-interactive", kind := .flag, about := "cli.arg_non_interactive" }

def helpOpt : Opt := { long := "help", short := some 'h', kind := .help }

def versionOpt : Opt := { long := "version", short := some 'V', kind := .version }

/-! ## Levels -/

/-- A level of the command line, as the help texts name it. -/
inductive Level where
  | program
  | run
  | init
  /-- The subcommand that shows help; it reads its words itself. -/
  | help
  deriving DecidableEq

/-- The options of a level, in the order of the help text. -/
def Level.options : Level → List Opt
  | .program => [langOpt, helpOpt, versionOpt]
  | .run =>
    [configOpt, langOpt, suitesDirOpt, suffixOpt, commandOpt, jobsOpt, reporterOpt, reportDirOpt,
      helpOpt]
  | .init => [configOpt, langOpt, nonInteractiveOpt, helpOpt]
  | .help => []

def Level.subcommands : Level → List (String × Level)
  | .program => [("run", .run), ("init", .init), ("help", .help)]
  | _ => []

/-- The words that name a level, from the program's name on. -/
def Level.call : Level → String
  | .program => programName
  | .run => programName ++ " run"
  | .init => programName ++ " init"
  | .help => programName ++ " help"

/-- What else a level may be given, as usage texts say it. -/
def Level.operands : Level → String
  | .program => " [OPTIONS] [COMMAND]"
  | .run => " [OPTIONS]"
  | .init => " [OPTIONS]"
  | .help => " [COMMAND]..."

/-- The option of a level with a long name. -/
def Level.long? (l : Level) (name : List Char) : Option Opt :=
  l.options.find? (·.long.toList = name)

/-- The option of a level with a short name. -/
def Level.short? (l : Level) (c : Char) : Option Opt := l.options.find? (·.short = some c)

end TapSuite.Cli
