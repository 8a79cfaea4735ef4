import TapSuite.Config.Basic
import TapSuite.Toml.Printer

/-!
# Settings as a TOML document

One line for each setting, in their documented order, and the reporter's settings in a table of
their own.  A language that is not given has no line.
-/

namespace TapSuite

open Toml

def ReporterConfig.render (r : ReporterConfig) : String :=
  headerLine "reporter" ++ textLine "name" r.name ++ textLine "report_dir" r.reportDir ++
    textLine "report_filename" r.reportFilename

def Config.render (c : Config) : String :=
  (match c.language with
    | none => ""
    | some language => textLine "language" language) ++
  textLine "suites_dir" c.suitesDir ++ textLine "suffix" c.suffix ++
  textLine "command" c.command ++ numberLine "jobs" c.jobs.toNat ++
  numberLine "failure_exit_code" c.failureExitCode.toNat ++ "\n" ++ c.reporter.render

end TapSuite
