import TapSuite.Console.Lines
import TapSuite.Html.Sheet

/-!
# Style sheet and script of the HTML report

The page stands alone: its style and the script that unfolds a suite's details are part of it.
-/

namespace TapSuite.Report

open Html

def styleSheet : String :=
  String.join [
    block "body" [
      "font-family: -apple-system, BlinkMacSystemFont, \"Segoe UI\", Roboto, sans-serif",
      "margin: 2em", "color: #24292f", "background: #f6f8fa"],
    rule "h1" ["margin-bottom: 0.2em"],
    rule ".run-meta" ["color: #57606a", "margin-top: 0"],
    rule ".summary-container" ["display: flex", "gap: 1em", "margin: 1.5em 0"],
    block ".summary-item" [
      "background: #fff", "border: 1px solid #d0d7de", "border-radius: 6px",
      "padding: 0.8em 1.4em", "text-align: center"],
    rule ".summary-item .count" ["display: block", "font-size: 1.8em", "font-weight: 600"],
    rule ".summary-item .label" ["color: #57606a"],
    rule ".passed-text" ["color: #1a7f37"],
    rule ".failed-text" ["color: #cf222e"],
    rule ".skipped-text" ["color: #9a6700"],
    rule "table" ["width: 100%", "border-collapse: collapse", "background: #fff"],
    rule "th, td" [
      "border-bottom: 1px solid #d0d7de", "padding: 0.5em 0.8em", "text-align: left"],
    rule "th" ["background: #eaeef2"],
    rule ".count-cell, .duration-cell" ["text-align: right", "white-space: nowrap"],
    rule ".status-cell" [
      "display: inline-block", "padding: 0.1em 0.6em", "border-radius: 1em", "color: #fff"],
    rule ".status-Passed" ["background: #1a7f37"],
    rule ".status-Failed" ["background: #cf222e"],
    rule ".status-Skipped" ["background: #9a6700"],
    rule ".output-toggle" [
      "display: inline-block", "margin-left: 0.6em", "color: #0969da", "cursor: pointer"],
    rule ".case-list" ["margin: 0.4em 0", "padding-left: 1.2em"],
    rule ".case-passed" ["color: #1a7f37"],
    rule ".case-failed" ["color: #cf222e", "font-weight: 600"],
    rule ".case-skipped, .case-todo" ["color: #9a6700"],
    block ".output-content" [
      "background: #24292f", "color: #f6f8fa", "padding: 1em", "overflow-x: auto",
      "max-height: 30em"]]

/-- The page's script: it shows and hides the row with a given id. -/
def script : String :=
  printed [
    "function toggleOutput(id) \x7b",
    "  var row = document.getElementById(id);",
    "  if (!row) \x7b",
    "    return;",
    "  \x7d",
    "  row.style.display = row.style.display === 'none' ? 'table-row' : 'none';",
    "\x7d"]

end TapSuite.Report
