import TapSuite.Console.Style
import TapSuite.Engine.Basic
import TapSuite.Engine.Schedule
import TapSuite.Engine.Suite
import TapSuite.Locale.Basic

/-!
# The command engine

Every suite runs in an interpreter process of its own, at most as many at the same time as there
are jobs, and at least one.  The command line is read before the first suite starts, so a bad
command fails the whole run.

The summary lists the suites in the order of their registration, whatever the order in which they
finish.  Of several suites that cannot be launched the first to finish is reported.
-/

namespace TapSuite.Engine

/-! ## Surroundings -/

/-- What a run of the command engine depends on besides its suites. -/
structure Setting where
  command : String
  jobs : Nat
  environment : Command.Environment
  launch : Process.Launcher
  /-- Which running suite finishes next, each time. -/
  choices : List Nat := []
  startedAt : Timestamp := {}
  duration : Span := {}
  /-- The language of the engine's own lines. -/
  locale : String
  colours : Bool := false

/-! ## Lines -/

def runningLine (s : Setting) (suite : SuiteFile) : String :=
  (Style.colour .blue).paint s.colours
    (Locale.say s.locale "run.running_suite" [("name", suite.name)])

def resultLine (s : Setting) (r : SuiteResult) : String :=
  if r.isFailure then
    (Style.colour .red).paint s.colours <|
      Locale.say s.locale "run.suite_failed"
        [("name", r.suite.name), ("failures", toString r.failures.toNat),
          ("duration", r.duration.text)]
  else
    (Style.colour .green).paint s.colours <|
      Locale.say s.locale "run.suite_passed"
        [("name", r.suite.name), ("duration", r.duration.text)]

/-- A suite with its place in the order of registration and its result. -/
structure Job where
  index : Nat
  suite : SuiteFile
  result : Except SetupError SuiteResult

/-- The lines of an event.  A suite that cannot be launched has no line for its end. -/
def eventLines (s : Setting) : Event Job → List String
  | .started job => [runningLine s job.suite]
  | .finished job =>
    match job.result with
    | .ok r => [resultLine s r]
    | .error _ => []

/-! ## Results -/

/-- The suites as jobs, counted from an index on. -/
def jobsFrom (s : Setting) (command : Command.Line) : Nat → List SuiteFile → List Job
  | _, [] => []
  | index, suite :: rest =>
    ⟨index, suite, runSuite s.launch command suite⟩ :: jobsFrom s command (index + 1) rest

/-- The results of jobs, each with its job's index, or the first error. -/
def collect : List Job → Except SetupError (List (Nat × SuiteResult))
  | [] => .ok []
  | job :: rest =>
    match job.result with
    | .error e => .error e
    | .ok r => (collect rest).map ((job.index, r) :: ·)

/-- Results in the order of their indices. -/
def inOrder (results : List (Nat × SuiteResult)) : List SuiteResult :=
  (results.mergeSort fun a b => a.1 ≤ b.1).map (·.2)

/-- The run of some suites with a command line. -/
def runSuites (s : Setting) (command : Command.Line) (suites : List SuiteFile) : EngineRun :=
  let happened := events (max s.jobs 1) s.choices [] (jobsFrom s command 0 suites)
  { lines := happened.flatMap (eventLines s)
    started := suites
    result := (collect (finished happened)).map fun results =>
      .of s.startedAt s.duration (inOrder results) }

def runRegistered (s : Setting) (r : Registry) : EngineRun :=
  match Command.parse s.environment s.command with
  | .error e => { result := .error (.engine e) }
  | .ok command => runSuites s command r.suites

def command (s : Setting) : Engine Registry where
  addFile := Registry.register
  run := runRegistered s

end TapSuite.Engine
