import TapSuite.Html.Token
import TapSuite.Report.Assets
import TapSuite.Report.Status
import TapSuite.Suite.Summary

/-!
# The HTML report

One page: the statistics of the run, a table with a row for each suite, and below each row a hidden
one with the suite's cases and its output.

Names and outputs of suites and names of cases are text tokens; everything else on the page is the
program's own.
-/

namespace TapSuite.Report

open Html

/-! ## Pieces -/

/-- A message as content. -/
def label (locale key : String) : Token := .verbatim (Locale.say locale key)

/-- A number as content. -/
def number (n : Nat) : Token := .verbatim (toString n)

def head (locale : String) : List Token :=
  element "head" [] <|
    .opening "meta" [{ name := "charset", value := "utf-8" }] ::
      element "title" [] [label locale "html_report.title"] ++
      element "style" [] [.verbatim styleSheet]

/-- When the run started and how long it took. -/
def runMeta (locale : String) (s : Summary) : List Token :=
  element "p" [styleClass "run-meta"] [.verbatim <|
    Locale.say locale "html_report.started_at"
      [("time", s.startedAt.text), ("duration", s.duration.text)]]

/-! ## Statistics -/

/-- A number with its label. -/
def statistic (locale : String) (count : Nat) (colour key : String) : List Token :=
  element "div" [styleClass "summary-item"] <|
    element "span" [styleClass ("count " ++ colour)] [number count] ++
      element "span" [styleClass "label"] [label locale key]

def statistics (locale : String) (s : Summary) : List Token :=
  element "div" [styleClass "summary-container"] <|
    statistic locale s.suites.length "" "html_report.summary.suites" ++
    statistic locale s.totalCases "" "html_report.summary.tests" ++
    statistic locale (s.count .passed) "passed-text" "html_report.summary.passed" ++
    statistic locale s.failures.toNat "failed-text" "html_report.summary.failed" ++
    statistic locale (s.count .skipped) "skipped-text" "html_report.summary.skipped"

/-! ## Suites -/

/-- The heads of the table's columns. -/
def columns (locale : String) : List Token :=
  element "thead" [] <| element "tr" [] <|
    element "th" [] [label locale "html_report.table.header.suite"] ++
    element "th" [styleClass "status-col"] [label locale "html_report.table.header.status"] ++
    element "th" [styleClass "count-cell"] [label locale "html_report.table.header.cases"] ++
    element "th" [styleClass "count-cell"] [label locale "html_report.table.header.failures"] ++
    element "th" [styleClass "duration-cell"] [label locale "html_report.table.header.duration"]

/-- The id of the row with the details of a suite. -/
def detailsId (index : Nat) : String := "details-" ++ toString index

/-- The cell with a suite's verdict and the switch for its details. -/
def statusCell (locale : String) (index : Nat) (status : SuiteStatus) : List Token :=
  element "td" [styleClass "status-col"] <|
    element "div" [styleClass ("status-cell " ++ status.styleClass)]
      [.verbatim (status.label locale)] ++
    element "div"
      [styleClass "output-toggle",
        { name := "onclick", value := "toggleOutput('" ++ detailsId index ++ "')", quote := '"' }]
      [label locale "html_report.toggle_details"]

def suiteRow (locale : String) (index : Nat) (r : SuiteResult) : List Token :=
  element "tr" [] <|
    element "td" [] [.text r.suite.name] ++
    statusCell locale index r.status ++
    element "td" [styleClass "count-cell"] [number r.cases.length] ++
    element "td" [styleClass "count-cell"] [number r.failures.toNat] ++
    element "td" [styleClass "duration-cell"] [.verbatim (r.duration.text ++ "s")]

def caseClass : Outcome → String
  | .passed => "case-passed"
  | .failed => "case-failed"
  | .skipped => "case-skipped"
  | .todo => "case-todo"

def caseItem (c : Case) : List Token :=
  element "li" [styleClass (caseClass c.outcome)] [.text c.name]

/-- The hidden row with a suite's cases and output. -/
def detailsRow (index : Nat) (r : SuiteResult) : List Token :=
  element "tr"
    [{ name := "id", value := detailsId index }, { name := "style", value := "display:none;" }] <|
    element "td" [{ name := "colspan", value := "5" }] <|
      element "ul" [styleClass "case-list"] (r.cases.flatMap caseItem) ++
      element "pre" [styleClass "output-content"] [.text r.output]

/-- The rows of suites, the first of which has the given index. -/
def suiteRows (locale : String) : Nat → List SuiteResult → List Token
  | _, [] => []
  | index, r :: rest =>
    suiteRow locale index r ++ detailsRow index r ++ suiteRows locale (index + 1) rest

/-! ## The page -/

def page (locale : String) (s : Summary) : List Token :=
  .doctype :: (element "html" [] <|
    head locale ++
    element "body" [] (
      element "h1" [] [label locale "html_report.main_header"] ++
      runMeta locale s ++
      statistics locale s ++
      element "table" [] (columns locale ++ element "tbody" [] (suiteRows locale 0 s.suites)) ++
      element "script" [] [.verbatim script]))

def html (locale : String) (s : Summary) : String := Html.render (page locale s)

end TapSuite.Report
