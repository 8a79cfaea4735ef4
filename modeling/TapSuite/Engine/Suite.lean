import TapSuite.Command.Line
import TapSuite.Process.Launch
import TapSuite.Suite.Result
import TapSuite.Tap.Parser

/-!
# Running one suite

A suite is handed to the interpreter as its last argument, and what the interpreter prints is read
as TAP.  The failures of the suite are its failed cases.  A suite without failed cases has one
failure nevertheless if its output bails out or its interpreter does not end well: a crash or a
syntax error leaves no failing test point behind.
-/

namespace TapSuite.Engine

def failuresOf (report : Tap.Report) (success : Bool) : UInt64 :=
  let failed := UInt64.ofNat report.failedCount
  if failed = 0 ∧ (report.bailedOut ∨ success = false) then 1 else failed

/-- The result of a suite whose interpreter has ended. -/
def suiteResult (suite : SuiteFile) (c : Process.Completed) : SuiteResult :=
  let report := Tap.parse c.output
  { suite
    cases := report.cases
    failures := failuresOf report c.success
    exitCode := c.code
    output := c.output
    duration := c.duration }

def runSuite (launch : Process.Launcher) (command : Command.Line) (suite : SuiteFile) :
    Except SetupError SuiteResult :=
  match launch command.program (command.args ++ [suite.path]) with
  | .error fault => .error (.engine (.launch command.program suite.path fault))
  | .ok c => .ok (suiteResult suite c)

end TapSuite.Engine
