/-!
# Test cases

What becomes of a test case, and a case as a report lists it.
-/

namespace TapSuite

/-- What became of a test case. -/
inductive Outcome where
  | passed
  | failed
  | skipped
  /-- Marked as work to be done; it never counts as a failure. -/
  | todo
  deriving DecidableEq

/-- The word that a machine-readable report uses for an outcome. -/
def Outcome.word : Outcome → String
  | .passed => "passed"
  | .failed => "failed"
  | .skipped => "skipped"
  | .todo => "todo"

/-- A named test case and what became of it. -/
structure Case where
  name : String
  outcome : Outcome
  deriving DecidableEq

end TapSuite
