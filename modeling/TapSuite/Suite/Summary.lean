import TapSuite.Suite.Result
import TapSuite.Time.Timestamp

/-!
# Run summaries

The results of all suites of a run in the order of their registration, and the number of failures:
the sum over the suites, in 64-bit words.

    (Summary.of t d suites).failures = UInt64.ofNat (total (·.failures.toNat) suites)
-/

namespace TapSuite

/-- The outcome of a run. -/
structure Summary where
  startedAt : Timestamp
  duration : Span
  suites : List SuiteResult
  failures : UInt64
  deriving DecidableEq

/-- The sum of a figure over some suites. -/
def total (figure : SuiteResult → Nat) : List SuiteResult → Nat
  | [] => 0
  | s :: rest => figure s + total figure rest

def Summary.of (startedAt : Timestamp) (duration : Span) (suites : List SuiteResult) : Summary :=
  ⟨startedAt, duration, suites, .ofNat (total (·.failures.toNat) suites)⟩

def Summary.empty (startedAt : Timestamp) : Summary := .of startedAt {} []

def Summary.totalCases (s : Summary) : Nat := total (·.cases.length) s.suites

def Summary.count (s : Summary) (o : Outcome) : Nat := total (·.count o) s.suites

def Summary.failedSuites (s : Summary) : List SuiteResult := s.suites.filter (·.isFailure)

def Summary.isSuccess (s : Summary) : Bool := s.failures = 0

end TapSuite
