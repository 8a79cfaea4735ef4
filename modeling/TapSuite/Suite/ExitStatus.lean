/-!
# Exit statuses

A run without failures ends with code 0, a run with failures with the configured code, and a run
that could not be set up with code 2.
-/

namespace TapSuite

/-- How a run ended. -/
inductive ExitStatus where
  | success
  | testsFailed (code : UInt8)
  deriving DecidableEq

/-- The status that a number of failures leads to. -/
def ExitStatus.ofFailures (failures : UInt64) (failureCode : UInt8) : ExitStatus :=
  if failures = 0 then .success else .testsFailed failureCode

/-- The code that the process ends with. -/
def ExitStatus.code : ExitStatus → UInt8
  | .success => 0
  | .testsFailed code => code

def ExitStatus.isSuccess : ExitStatus → Bool
  | .success => true
  | .testsFailed _ => false

/-- The code of a run that could not be set up. -/
def setupFailureCode : UInt8 := 2

end TapSuite
