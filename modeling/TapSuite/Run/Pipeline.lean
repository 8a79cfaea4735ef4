import TapSuite.Console.Lines
import TapSuite.Engine.Basic
import TapSuite.Report.Reporter
import TapSuite.Suite.Discovery
import TapSuite.Suite.ExitStatus

/-!
# The run of all suites

The suites are discovered, all of them are added to the engine, the engine runs once, the run is
reported, and the number of failures becomes the exit status.  The first of these steps that fails
ends the run.  A report that cannot be written does not: it costs one line on the error stream.
-/

namespace TapSuite

/-- What a run prints, which suites it starts, what it leaves in the workspace, and how it ends. -/
structure RunOutcome (α : Type) where
  out : List String := []
  err : List String := []
  /-- The suites that the engine started; none if the engine did not run. -/
  started : Option (List SuiteFile) := none
  workspace : Workspace
  result : Except SetupError α

namespace Run

/-! ## Lines -/

/-- How a run prints: its language, and whether in colours. -/
structure Display where
  locale : String
  colours : Bool := false

def Display.styled (d : Display) (style : Style) (key : String)
    (values : List (String × String) := []) : String :=
  style.paint d.colours (Locale.say d.locale key values)

def discoveringLine (d : Display) (dir : String) : String :=
  d.styled (.colour .cyan) "run.discovering" [("path", dir)]

def foundLine (d : Display) (suffix : String) (suites : List SuiteFile) : String :=
  if suites.isEmpty then d.styled (.colour .yellow) "run.no_suites" [("suffix", suffix)]
  else d.styled (.colour .cyan) "run.suites_found" [("count", toString suites.length)]

/-- The line about a report's file, after an empty one. -/
def writtenLines (d : Display) (path : Option String) : List String :=
  match path with
  | none => []
  | some path => ["", Locale.say d.locale "report.written" [("path", path)]]

/-- The line about a report that could not be written. -/
def writeFailedLine (d : Display) (e : ArtifactError) : String :=
  d.styled (.colour .red) "report.write_failed" ++ " " ++ e.message

/-- The verdict of a run, after what is to say about its failures. -/
def verdictLines (d : Display) (s : Summary) (status : ExitStatus) : List String :=
  if status.isSuccess then ["", d.styled (.boldColour .green) "run.all_passed"]
  else
    Report.failures d.colours d.locale s ++
      ["", d.styled (.boldColour .red) "run.failures_detected"
        [("count", toString s.failures.toNat)]]

/-! ## Stages -/

/-- The lines on both streams that a report leads to. -/
def reportLines (d : Display) (o : ReportOutcome) : List String × List String :=
  match o.result with
  | .ok path => (o.lines ++ writtenLines d path, [])
  | .error e => (o.lines, [writeFailedLine d e])

/-- What follows when the engine has run. -/
def conclude (d : Display) (reporter : Reporter) (failureCode : UInt8) (w : Workspace)
    (s : Summary) : RunOutcome (Summary × ExitStatus) :=
  let status := ExitStatus.ofFailures s.failures failureCode
  let reported := reporter s w
  let (out, err) := reportLines d reported
  { out := Report.table d.colours d.locale s ++ out ++ verdictLines d s status
    err
    workspace := reported.workspace
    result := .ok (s, status) }

/-- The outcome with lines in front of it. -/
def after {α : Type} (lines : List String) (o : RunOutcome α) : RunOutcome α :=
  { o with out := lines ++ o.out }

/-- A run that a step ends. -/
def failed {α : Type} (w : Workspace) (e : SetupError) : RunOutcome α :=
  { workspace := w, result := .error e }

/-- The run of an engine that has all suites, and what follows. -/
def execute {σ : Type} (d : Display) (engine : Engine σ) (reporter : Reporter)
    (failureCode : UInt8) (w : Workspace) (state : σ) : RunOutcome (Summary × ExitStatus) :=
  let run := engine.run state
  let o :=
    match run.result with
    | .error e => failed w e
    | .ok s => conclude d reporter failureCode w s
  after run.lines { o with started := some run.started }

/-- The whole run with an engine and a reporter. -/
def pipeline {σ : Type} (d : Display) (c : Config) (engine : Engine σ) (start : σ)
    (reporter : Reporter) (w : Workspace) : RunOutcome (Summary × ExitStatus) :=
  after [discoveringLine d c.suitesDir] <|
    match w.discover c.suitesDir c.suffix with
    | .error e => failed w e
    | .ok suites =>
      after [foundLine d c.suffix suites] <|
        match engine.addAll start (suites.map (·.path)) with
        | .error e => failed w e
        | .ok state => execute d engine reporter c.failureExitCode w state

end Run

end TapSuite
