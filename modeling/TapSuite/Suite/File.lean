import TapSuite.Path.Basic

/-!
# Suite files

A suite file is a path and the title that reports give it: the name that the path ends in, or the
whole path if it ends in no name.
-/

namespace TapSuite

/-- A file that holds a suite of tests. -/
structure SuiteFile where
  path : String
  name : String
  deriving DecidableEq

def SuiteFile.ofPath (path : String) : SuiteFile where
  path
  name := ((Path.fileName? path.toList).map String.ofList).getD path

end TapSuite
