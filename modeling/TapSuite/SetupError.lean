import TapSuite.Config.Decode
import TapSuite.Fault

/-!
# Errors that end a run before its verdict

A failing test is no error.  What is: settings that cannot be had, an unknown reporter, a directory
that cannot be listed, a suite registered twice, and an interpreter that cannot be started.
-/

namespace TapSuite

/-! ## Causes -/

/-- Why there are no settings. -/
inductive ConfigProblem where
  /-- A file that was asked for by name is missing. -/
  | missing
  | unreadable (fault : Fault)
  | undecodable (error : DecodeError)
  | invalid (violation : Violation)
  deriving DecidableEq

def ConfigProblem.message : ConfigProblem → String
  | .missing => "file not found"
  | .unreadable fault => fault.message
  | .undecodable error => error.message
  | .invalid violation => violation.message

/-- Why an engine could not run. -/
inductive EngineProblem where
  /-- A command names a variable that is not set. -/
  | unknownVariable (command key : String)
  /-- A command, its variables expanded, has unbalanced quotes. -/
  | unbalancedQuotes (expanded : String)
  | noWords
  | launch (program suite : String) (fault : Fault)
  | other (text : String)
  deriving DecidableEq

def EngineProblem.message : EngineProblem → String
  | .unknownVariable command key =>
    "failed to expand command '" ++ command ++ "': error looking key '" ++ key ++
      "' up: environment variable not found"
  | .unbalancedQuotes expanded => "failed to parse command '" ++ expanded ++ "'"
  | .noWords => "empty command after parsing"
  | .launch program suite fault =>
    "failed to launch '" ++ program ++ "' for " ++ suite ++ ": " ++ fault.message
  | .other text => text

/-! ## Errors -/

/-- Why a run ended before its verdict. -/
inductive SetupError where
  | directoryAccess (path : String) (fault : Fault)
  | duplicateSuite (path : String)
  | unknownReporter (name : String) (available : List String)
  | config (path : String) (problem : ConfigProblem)
  | engine (problem : EngineProblem)
  deriving DecidableEq

def SetupError.message : SetupError → String
  | .directoryAccess path fault =>
    "cannot read suite directory '" ++ path ++ "': " ++ fault.message
  | .duplicateSuite path => "suite '" ++ path ++ "' is already registered"
  | .unknownReporter name available =>
    "unknown reporter '" ++ name ++ "' (available: " ++ ", ".intercalate available ++ ")"
  | .config path problem => "invalid configuration '" ++ path ++ "': " ++ problem.message
  | .engine problem => "execution engine failed: " ++ problem.message

/-- The text of an error with its cause.  Only a directory's fault counts as a cause of its own,
so it is named twice. -/
def SetupError.chain : SetupError → String
  | .directoryAccess path fault =>
    (SetupError.directoryAccess path fault).message ++ ": " ++ fault.message
  | e => e.message

end TapSuite
