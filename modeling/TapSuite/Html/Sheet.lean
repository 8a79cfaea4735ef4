/-!
# Style sheets

A rule is a selector and its declarations, on one line or with a line for each declaration.
-/

namespace TapSuite.Html

/-- A rule on one line. -/
def rule (selector : String) (declarations : List String) : String :=
  selector ++ " \x7b " ++ String.join (declarations.map (· ++ "; ")) ++ "\x7d\n"

/-- A rule with a line for each declaration. -/
def block (selector : String) (declarations : List String) : String :=
  selector ++ " \x7b\n" ++ String.join (declarations.map fun d => "  " ++ d ++ ";\n") ++ "\x7d\n"

end TapSuite.Html
