import TapSuite.SetupError
import TapSuite.Workspace.Files

/-!
# Settings of a run

Settings read from a text have to meet the requirements at once; merged with what the command line
gives they have to meet them again.  A file that is missing stands for the defaults, unless it was
asked for by name.
-/

namespace TapSuite

/-- Settings that meet the requirements; `origin` is where they came from. -/
def Config.validate (c : Config) (origin : String) : Except SetupError Unit :=
  match c.violation? with
  | none => .ok ()
  | some v => .error (.config origin (.invalid v))

/-- The settings that a text gives, if they meet the requirements. -/
def Config.ofText (text origin : String) : Except SetupError Config :=
  match Config.read text with
  | .error e => .error (.config origin (.undecodable e))
  | .ok c =>
    match c.validate origin with
    | .error e => .error e
    | .ok () => .ok c

/-- The settings that a file gives.  `required` says that the file was asked for by name. -/
def Config.load (w : Workspace) (path : String) (required : Bool) : Except SetupError Config :=
  if w.holds path then
    match w.readText path with
    | .error fault => .error (.config path (.unreadable fault))
    | .ok text => Config.ofText text path
  else if required then .error (.config path .missing)
  else .ok {}

end TapSuite
