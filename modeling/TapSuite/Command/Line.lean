import TapSuite.Command.Expand
import TapSuite.Command.Words
import TapSuite.SetupError

/-!
# Command lines

The program and the arguments that a configured command line names: expanded first, then cut into
words, of which the first is the program.
-/

namespace TapSuite.Command

/-- A program and the arguments that come before a suite's path. -/
structure Line where
  program : String
  args : List String
  deriving DecidableEq

def parse (env : Environment) (line : String) : Except EngineProblem Line :=
  match expand env line with
  | .error key => .error (.unknownVariable line key)
  | .ok expanded =>
    match words? expanded with
    | none => .error (.unbalancedQuotes expanded)
    | some [] => .error .noWords
    | some (program :: args) => .ok ⟨program, args⟩

end TapSuite.Command
