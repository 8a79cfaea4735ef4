import TapSuite.Workspace.Resolve

/-!
# Programs that cannot be started

No file of the workspace can be executed, and a bare name that is no program of the sandbox is
looked for in directories of which only their own names `.` and `..` are known.
-/

namespace TapSuite.Sandbox

/-- Why a program that the sandbox does not know cannot be started. -/
def refusal (w : Workspace) (program : String) : Fault :=
  if program.toList.contains '/' then
    match w.resolve program with
    | .error fault => fault
    | .ok _ => .accessDenied
  else if Workspace.longestName < program.utf8ByteSize then .nameTooLong
  else if program = "." ∨ program = ".." then .accessDenied
  else .notFound

end TapSuite.Sandbox
