import TapSuite.Suite.Result
import TapSuite.Locale.Basic

/-!
# The verdict on a suite in reports

The word that a reader sees and the class that a style sheet knows.
-/

namespace TapSuite

def SuiteStatus.styleClass : SuiteStatus → String
  | .passed => "status-Passed"
  | .failed => "status-Failed"
  | .skipped => "status-Skipped"

def SuiteStatus.label (locale : String) : SuiteStatus → String
  | .passed => Locale.say locale "report.status_passed"
  | .failed => Locale.say locale "report.status_failed"
  | .skipped => Locale.say locale "report.status_skipped"

end TapSuite
