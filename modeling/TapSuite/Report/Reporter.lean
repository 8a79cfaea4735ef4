import TapSuite.Config.Basic
import TapSuite.Report.Artifact
import TapSuite.Report.Console
import TapSuite.Report.Html
import TapSuite.Report.Json
import TapSuite.SetupError

/-!
# Reporters

A reporter turns the summary of a run into lines on the console or into a file.  There are three of
them, known by their names.
-/

namespace TapSuite

/-- A way to report a run. -/
inductive ReporterKind where
  | spec
  | html
  | json
  deriving DecidableEq

namespace ReporterKind

def name : ReporterKind → String
  | .spec => "spec"
  | .html => "html"
  | .json => "json"

def all : List ReporterKind := [.spec, .html, .json]

def named (name : String) : Except SetupError ReporterKind :=
  match all.find? (·.name = name) with
  | some r => .ok r
  | none => .error (.unknownReporter name (all.map ReporterKind.name))

end ReporterKind

/-- What a report leads to: lines on the console, the path of a file or an error, and the
workspace with that file. -/
structure ReportOutcome where
  lines : List String := []
  result : Except ArtifactError (Option String) := .ok none
  workspace : Workspace

/-- The outcome of writing a report to a file. -/
def ReportOutcome.ofFile : Except ArtifactError String × Workspace → ReportOutcome
  | (.ok path, workspace) => { result := .ok (some path), workspace }
  | (.error e, workspace) => { result := .error e, workspace }

/-- A way to report a run: a function of the summary and the workspace. -/
abbrev Reporter := Summary → Workspace → ReportOutcome

/-- The reporter of a kind, with its settings. -/
def ReporterKind.reporter (colours : Bool) (locale : String) (options : ReporterConfig) :
    ReporterKind → Reporter
  | .spec => fun s w => { lines := Report.spec colours s, workspace := w }
  | .html => fun s w => .ofFile <|
    w.writeArtifact options.reportDir (options.reportFilename ++ ".html") (Report.html locale s)
  | .json => fun s w => .ofFile <|
    w.writeArtifact options.reportDir (options.reportFilename ++ ".json") (Json.pretty s.report)

end TapSuite
