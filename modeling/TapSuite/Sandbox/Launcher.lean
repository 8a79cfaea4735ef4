import TapSuite.Sandbox.Execution
import TapSuite.Sandbox.Refusal

/-!
# The sandbox's launcher

In the sandbox a program is known by its bare name or by its path in one of the system's two
directories for programs.
-/

namespace TapSuite.Sandbox

open Process

def bareName (program : String) : String :=
  match program.toList with
  | '/' :: 'b' :: 'i' :: 'n' :: '/' :: name => String.ofList name
  | '/' :: 'u' :: 's' :: 'r' :: '/' :: 'b' :: 'i' :: 'n' :: '/' :: name => String.ofList name
  | _ => program

/-- The effect of a program that the sandbox knows. -/
def effect? (o : Outset) (name : String) (args : List String) : Option Effect :=
  if name = "sh" then some (o.runShell args)
  else (Program.named? name).map (·.run o.workspace o.input args)

/-- Starts the programs of the sandbox in an environment. -/
def launcher (w : Workspace) (environment : List (String × String)) : Launcher :=
  fun program args =>
    if (program :: args).any (·.toList.contains '\x00') then .error .nulInArgument
    else
      match effect? ⟨w, environment, []⟩ (bareName program) args with
      | some e => .ok e.completed
      | none => .error (refusal w program)

end TapSuite.Sandbox
