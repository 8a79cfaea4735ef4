import TapSuite.Console.Lines
import TapSuite.Console.Style
import TapSuite.Report.Status
import TapSuite.Suite.Summary
import TapSuite.Text.Blank

/-!
# Reports on the console

Every run prints a table of its suites and its totals, and a run with failures what the failing
suites printed.  The `spec` report lists each case.

      - Passed     | login.js                                 |      4 |        0      0.31s

A column is filled up before it is coloured, so colours change no width.
-/

namespace TapSuite.Report

open Text

/-! ## The table -/

def row (colours : Bool) (locale : String) (r : SuiteResult) : String :=
  let colour := if r.isFailure then Colour.red else .green
  "  - " ++ (Style.colour colour).paint colours (alignLeft 10 (r.status.label locale)) ++
    " | " ++ alignLeft 40 r.suite.name ++
    " | " ++ alignRight 6 (toString r.cases.length) ++
    " | " ++ alignRight 8 (toString r.failures.toNat) ++
    " " ++ alignRight 9 r.duration.text ++ "s"

def totals (locale : String) (s : Summary) : String :=
  Locale.say locale "summary.totals"
    [("suites", toString s.suites.length), ("passed", toString (s.count .passed)),
      ("failed", toString s.failures.toNat), ("skipped", toString (s.count .skipped)),
      ("duration", s.duration.text)]

def table (colours : Bool) (locale : String) (s : Summary) : List String :=
  "" :: Style.bold.paint colours (Locale.say locale "summary.banner") ::
    s.suites.map (row colours locale) ++ ["", totals locale s]

/-! ## Failures -/

def ruler : String := String.ofList (List.replicate 80 '-')

def withoutTrailingBlanks (s : String) : String := String.ofList (trimEnd s.toList)

/-- The section of a failing suite, the `index`-th of `total`. -/
def failureSection (colours : Bool) (locale : String) (total index : Nat) (r : SuiteResult) :
    List String :=
  ["[" ++ toString index ++ "/" ++ toString total ++ "] " ++
      (Style.colour .red).paint colours (Locale.say locale "summary.failure_header") ++
      " '" ++ (Style.colour .cyan).paint colours r.suite.path ++ "'"] ++
    (r.exitCode.toList.map fun code =>
      Locale.say locale "summary.exit_code" [("code", toString code)]) ++
    ["", "--- " ++ (Style.colour .yellow).paint colours (Locale.say locale "summary.suite_log") ++
        " ---", "", withoutTrailingBlanks r.output, "", ruler]

/-- The sections of failing suites, the first of which has the given index. -/
def sections (colours : Bool) (locale : String) (total : Nat) : Nat → List SuiteResult → List String
  | _, [] => []
  | index, r :: rest =>
    failureSection colours locale total index r ++ sections colours locale total (index + 1) rest

/-- What a run with failures prints about them; nothing if no suite failed. -/
def failures (colours : Bool) (locale : String) (s : Summary) : List String :=
  let failed := s.failedSuites
  if failed.isEmpty then []
  else
    ["", (Style.boldColour .red).paint colours (Locale.say locale "summary.failure_banner"),
        ruler] ++
      sections colours locale failed.length 1 failed

/-! ## Cases -/

def caseLine (colours : Bool) (c : Case) : String :=
  "    " ++
    match c.outcome with
    | .passed => (Style.colour .green).paint colours ("✔ " ++ c.name)
    | .failed => (Style.colour .red).paint colours ("✘ " ++ c.name)
    | .skipped => (Style.colour .cyan).paint colours ("- " ++ c.name)
    | .todo => (Style.colour .yellow).paint colours ("~ " ++ c.name)

/-- The lines of a suite's cases under the suite's name. -/
def caseList (colours : Bool) (r : SuiteResult) : List String :=
  ("  " ++ Style.bold.paint colours r.suite.name) :: r.cases.map (caseLine colours)

/-- All cases of a run. -/
def spec (colours : Bool) (s : Summary) : List String :=
  "" :: s.suites.flatMap (caseList colours)

end TapSuite.Report
