import TapSuite.Json.Value
import TapSuite.Suite.Summary

/-!
# Reading a JSON report

What a reader takes from a report once it is parsed: the statistics of the run and the results of
its suites.  A record has exactly the members that it is read for, in their order.
-/

namespace TapSuite

open Json (Value)

/-! ## Values -/

namespace Json.Value

/-- The values of an object with members of exactly these names. -/
def record? (names : List String) : Value → Option (List Value)
  | .object members => if members.map (·.1) = names then some (members.map (·.2)) else none
  | _ => none

def text? : Value → Option String
  | .text s => some s
  | _ => none

/-- A number that is not negative. -/
def natural? : Value → Option Nat
  | .number (.ofNat n) => some n
  | _ => none

/-- A number of 64 bits. -/
def word? (v : Value) : Option UInt64 := do
  let n ← v.natural?
  if n < UInt64.size then some (.ofNat n) else none

/-- An array of values that are all read in one way. -/
def list? {α : Type} (read : Value → Option α) : Value → Option (List α)
  | .array items => items.mapM read
  | _ => none

end Json.Value

/-! ## Results -/

def Outcome.ofWord? (word : String) : Option Outcome :=
  [Outcome.passed, .failed, .skipped, .todo].find? (·.word = word)

def Span.ofJson? (v : Value) : Option Span :=
  match v.record? ["secs", "nanos"] with
  | some [secs, nanos] => do
    let seconds ← secs.word?
    let n ← nanos.natural?
    if h : n < 1000000000 then some { seconds, nanos := ⟨n, h⟩ } else none
  | _ => none

def SuiteFile.ofJson? (v : Value) : Option SuiteFile :=
  match v.record? ["path", "name"] with
  | some [path, name] => do
    let path ← path.text?
    let name ← name.text?
    some { path, name }
  | _ => none

def Case.ofJson? (v : Value) : Option Case :=
  match v.record? ["name", "outcome"] with
  | some [name, outcome] => do
    let name ← name.text?
    let word ← outcome.text?
    let outcome ← Outcome.ofWord? word
    some { name, outcome }
  | _ => none

/-- An exit code, or none at all. -/
def readExitCodeJson? : Value → Option (Option Int)
  | .null => some none
  | .number code => some (some code)
  | _ => none

def SuiteResult.ofJson? (v : Value) : Option SuiteResult :=
  match v.record? ["suite", "cases", "failures", "exit_code", "output", "duration"] with
  | some [suite, cases, failures, exitCode, output, duration] => do
    let suite ← SuiteFile.ofJson? suite
    let cases ← cases.list? Case.ofJson?
    let failures ← failures.word?
    let exitCode ← readExitCodeJson? exitCode
    let output ← output.text?
    let duration ← Span.ofJson? duration
    some { suite, cases, failures, exitCode, output, duration }
  | _ => none

/-! ## Reports -/

structure RunStats where
  start : String
  milliseconds : Nat
  suites : Nat
  tests : Nat
  passes : Nat
  failures : UInt64
  skipped : Nat
  todo : Nat
  deriving DecidableEq

def RunStats.ofJson? (v : Value) : Option RunStats :=
  match v.record? ["start", "duration_ms", "suites", "tests", "passes", "failures", "skipped",
      "todo"] with
  | some [start, milliseconds, suites, tests, passes, failures, skipped, todo] => do
    let start ← start.text?
    let milliseconds ← milliseconds.natural?
    let suites ← suites.natural?
    let tests ← tests.natural?
    let passes ← passes.natural?
    let failures ← failures.word?
    let skipped ← skipped.natural?
    let todo ← todo.natural?
    some { start, milliseconds, suites, tests, passes, failures, skipped, todo }
  | _ => none

def readReport? (v : Value) : Option (RunStats × List SuiteResult) :=
  match v.record? ["stats", "results"] with
  | some [stats, results] => do
    let stats ← RunStats.ofJson? stats
    let results ← results.list? SuiteResult.ofJson?
    some (stats, results)
  | _ => none

end TapSuite
