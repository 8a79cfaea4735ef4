import TapSuite.Json.Printer
import TapSuite.Suite.Summary

/-!
# The JSON report

The statistics of a run, and the results of its suites in order.

    {"stats": {…}, "results": [{"suite": {…}, "cases": […], "failures": 0, …}, …]}
-/

namespace TapSuite

open Json

/-! ## Parts -/

def Json.Value.count (n : Nat) : Value := .number n

/-- A span as its two parts. -/
def Span.toJson (d : Span) : Value :=
  .object [("secs", .count d.seconds.toNat), ("nanos", .count d.nanos.val)]

def SuiteFile.toJson (f : SuiteFile) : Value :=
  .object [("path", .text f.path), ("name", .text f.name)]

def Case.toJson (c : Case) : Value :=
  .object [("name", .text c.name), ("outcome", .text c.outcome.word)]

/-- An exit code; null for an interpreter that was killed. -/
def exitCodeJson : Option Int → Value
  | none => .null
  | some code => .number code

def SuiteResult.toJson (r : SuiteResult) : Value :=
  .object [("suite", r.suite.toJson), ("cases", .array (r.cases.map Case.toJson)),
    ("failures", .count r.failures.toNat), ("exit_code", exitCodeJson r.exitCode),
    ("output", .text r.output), ("duration", r.duration.toJson)]

/-! ## Reports -/

def Summary.toJson (s : Summary) : Value :=
  .object [("started_at", .text s.startedAt.internet), ("duration", s.duration.toJson),
    ("suites", .array (s.suites.map SuiteResult.toJson)), ("failures", .count s.failures.toNat)]

def Summary.stats (s : Summary) : Value :=
  .object [("start", .text s.startedAt.internet), ("duration_ms", .count s.duration.milliseconds),
    ("suites", .count s.suites.length), ("tests", .count s.totalCases),
    ("passes", .count (s.count .passed)), ("failures", .count s.failures.toNat),
    ("skipped", .count (s.count .skipped)), ("todo", .count (s.count .todo))]

def Summary.report (s : Summary) : Value :=
  .object [("stats", s.stats), ("results", .array (s.suites.map SuiteResult.toJson))]

end TapSuite
