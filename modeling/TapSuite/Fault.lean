/-!
# Faults of the operating system

The reasons for which the file system or the start of a program refuses, with their numbers and
texts on Linux.
-/

namespace TapSuite

/-- Why a file operation or the start of a program failed. -/
inductive Fault where
  | notFound
  | accessDenied
  | alreadyExists
  | notADirectory
  | isADirectory
  | nameTooLong
  | tooManyLinks
  /-- A file that should be text is not UTF-8. -/
  | notUtf8
  /-- A path holds the character NUL. -/
  | nulInPath
  /-- An argument of a program holds the character NUL. -/
  | nulInArgument
  deriving DecidableEq

/-- The text of a system error with its number. -/
def osError (text : String) (number : Nat) : String :=
  text ++ " (os error " ++ toString number ++ ")"

def Fault.message : Fault → String
  | .notFound => osError "No such file or directory" 2
  | .accessDenied => osError "Permission denied" 13
  | .alreadyExists => osError "File exists" 17
  | .notADirectory => osError "Not a directory" 20
  | .isADirectory => osError "Is a directory" 21
  | .nameTooLong => osError "File name too long" 36
  | .tooManyLinks => osError "Too many levels of symbolic links" 40
  | .notUtf8 => "stream did not contain valid UTF-8"
  | .nulInPath => "file name contained an unexpected NUL byte"
  | .nulInArgument => "nul byte found in provided data"

end TapSuite
