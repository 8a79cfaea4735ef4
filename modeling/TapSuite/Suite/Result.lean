import TapSuite.Case
import TapSuite.Suite.File
import TapSuite.Time.Span

/-!
# Results of suites

What one suite did: its cases, how many failures it adds to the run, how its interpreter ended and
what it printed.

A suite has failed when it adds failures.  It was skipped when it has cases and all of them were
skipped.
-/

namespace TapSuite

/-- What one suite did. -/
structure SuiteResult where
  suite : SuiteFile
  cases : List Case := []
  failures : UInt64 := 0
  /-- The interpreter's exit code; a killed one has none. -/
  exitCode : Option Int := some 0
  output : String := ""
  duration : Span := {}
  deriving DecidableEq

/-- The verdict on a suite. -/
inductive SuiteStatus where
  | passed
  | failed
  | skipped
  deriving DecidableEq

/-- Whether a suite adds failures. -/
def SuiteResult.isFailure (r : SuiteResult) : Bool := r.failures ≠ 0

def SuiteResult.count (r : SuiteResult) (o : Outcome) : Nat := r.cases.countP (·.outcome = o)

def SuiteResult.status (r : SuiteResult) : SuiteStatus :=
  if r.isFailure then .failed
  else if r.cases ≠ [] ∧ r.count .skipped = r.cases.length then .skipped
  else .passed

end TapSuite
