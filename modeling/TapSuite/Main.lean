import Std.Time
import TapSuite.Cli.Run
import TapSuite.Sandbox.Launcher

/-!
# The executable

Reads the files below the current directory, runs the program on them, writes back what the program
has written, and ends with its exit code.  Interpreters are the programs of the sandbox.
-/

namespace TapSuite.Executable

/-! ## Reading -/

/-- How deep directories are read. -/
def deepest : Nat := 12

/-- The workspace with an entry of a directory, and with what is below it. -/
def readEntry (w : Workspace) (dir : Workspace.Position) : Nat → IO.FS.DirEntry → IO Workspace
  | 0, _ => return w
  | depth + 1, e => do
    let position := dir ++ [Text.Utf8.encode e.fileName.toList]
    if ← e.path.isDir then
      let mut w := w.add position .directory
      for child in ← e.path.readDir do
        w ← readEntry w position depth child
      return w
    else
      try
        let contents ← IO.FS.readBinFile e.path
        return w.add position (.file contents.toList)
      catch _ => return w

/-- The position of the current directory in the workspace. -/
def currentPosition : Workspace.Position := [Workspace.dot]

def readWorkspace : IO Workspace := do
  let mut w : Workspace := ⟨[(currentPosition, .directory)], currentPosition⟩
  for e in ← (← IO.currentDir).readDir do
    w ← readEntry w currentPosition deepest e
  return w

/-- The names of the variables that the program itself looks at. -/
def programVariables : List String :=
  ["HOME", "LANGUAGE", "LC_ALL", "LC_MESSAGES", "LANG", "CLICOLOR_FORCE", "NO_COLOR"]

/-- The names of the variables that the interpreter's command line asks for. -/
def commandVariables (w : Workspace) (words : List String) : List String :=
  match Cli.Arguments.read words with
  | .ok ⟨_, .run a⟩ => ((Run.settings w a).toOption.map (Command.variableNames ·.command)).getD []
  | .ok ⟨_, .bare⟩ => ((Run.settings w {}).toOption.map (Command.variableNames ·.command)).getD []
  | _ => []

def readVariables (names : List String) : IO Command.Environment := do
  let mut env : Command.Environment := []
  for name in names do
    if let some value ← IO.getEnv name then
      env := env ++ [(name, value)]
  return env

def readClock : IO Timestamp := do
  let now ← Std.Time.Timestamp.now
  return { seconds := now.toSecondsSinceUnixEpoch.val }

/-! ## Writing -/

def pathOf (p : Workspace.Position) : String :=
  "/".intercalate (p.map fun name => String.ofList (Text.Utf8.lossy name))

/-- Writes the files that one workspace has beyond another. -/
def writeBack (before w : Workspace) : IO Unit := do
  for (p, e) in w.entries do
    if before.entries.lookup p != some e then
      match e with
      | .file contents => IO.FS.writeBinFile (pathOf p) ⟨contents.toArray⟩
      | .directory => IO.FS.createDirAll (pathOf p)
      | .link _ => pure ()

end TapSuite.Executable

open TapSuite Executable in
def main (arguments : List String) : IO UInt32 := do
  let words := Cli.programName :: arguments
  let w ← readWorkspace
  let environment ← readVariables (programVariables ++ commandVariables w words)
  let startedAt ← readClock
  let ended := Cli.run { environment, launch := Sandbox.launcher w environment, startedAt } w words
  writeBack w ended.workspace
  IO.print ended.out
  IO.eprint ended.err
  return ended.code.toUInt32
