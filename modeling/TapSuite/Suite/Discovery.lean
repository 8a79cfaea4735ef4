import TapSuite.SetupError
import TapSuite.Suite.File
import TapSuite.Workspace.Files

/-!
# Discovery of suites

The suites of a run are the files right in one directory whose names end in the suffix, in the
order in which the directory lists them.  A name that is not text is passed over, and so is
everything that does not lead to a file.
-/

namespace TapSuite

/-- The suite of a name in a directory, if it is one. -/
def Workspace.suite? (w : Workspace) (dir suffix : String) (name : Bytes) : Option SuiteFile :=
  match Text.Utf8.text? name with
  | none => none
  | some text =>
    if suffix.toList.isSuffixOf text then
      let path := String.ofList (Path.join dir.toList text)
      if w.isFile path then some (.ofPath path) else none
    else none

def Workspace.discover (w : Workspace) (dir suffix : String) :
    Except SetupError (List SuiteFile) :=
  match w.list dir with
  | .error fault => .error (.directoryAccess dir fault)
  | .ok names => .ok (names.filterMap (w.suite? dir suffix))

end TapSuite
