import TapSuite.Workspace.Files

/-!
# Report files

A report is written into a directory, which is made if it is missing.
-/

namespace TapSuite

/-- Why a report could not be written. -/
inductive ArtifactError where
  | directory (path : String) (fault : Fault)
  | file (path : String) (fault : Fault)
  | other (text : String)
  deriving DecidableEq

/-- The text of an error with its cause. -/
def ArtifactError.message : ArtifactError → String
  | .directory path fault =>
    "Failed to create report directory: " ++ path ++ ": " ++ fault.message
  | .file path fault => "Failed to write report: " ++ path ++ ": " ++ fault.message
  | .other text => text

def artifactPath (dir name : String) : String := String.ofList (Path.join dir.toList name.toList)

/-- Writes a file into a directory; the answer is the file's path. -/
def Workspace.writeArtifact (w : Workspace) (dir name contents : String) :
    Except ArtifactError String × Workspace :=
  match w.makeDirectories dir with
  | (.error fault, w) => (.error (.directory dir fault), w)
  | (.ok (), w) =>
    match w.writeText (artifactPath dir name) contents with
    | .error fault => (.error (.file (artifactPath dir name) fault), w)
    | .ok w => (.ok (artifactPath dir name), w)

end TapSuite
