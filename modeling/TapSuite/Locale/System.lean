import TapSuite.Command.Expand
import TapSuite.Locale.Basic

/-!
# The system's locale

The system's locale is named by environment variables: by the first name of `LANGUAGE`, else by
`LC_ALL`, `LC_MESSAGES` or `LANG`, the first of them that is set and not empty.  The first name of
`LANGUAGE` may be empty, and then names no language.

    zh_CN.UTF-8 is read as zh-CN
-/

namespace TapSuite.Locale

/-- A locale's name without encoding and variant, its parts joined by `-`. -/
def fromPosix (name : String) : String :=
  String.ofList <|
    (name.toList.takeWhile fun c => c ≠ '.' ∧ c ≠ '@').map fun c => if c = '_' then '-' else c

/-- The first name in a list with colons. -/
def firstName (names : String) : String := String.ofList (names.toList.takeWhile (· ≠ ':'))

/-- A variable's value, unless it is empty. -/
def setting? (env : Command.Environment) (name : String) : Option String :=
  (env.lookup name).filter (!·.isEmpty)

/-- The system's locale, if any is named. -/
def system? (env : Command.Environment) : Option String :=
  (((((setting? env "LANGUAGE").map firstName).or (setting? env "LC_ALL")).or
    (setting? env "LC_MESSAGES")).or (setting? env "LANG")).map fromPosix

end TapSuite.Locale
