import TapSuite.Text.Lines

/-!
# Paths

A path is a text.  What it names is its list of components: the root, `.`, `..`, and plain names.
Repeated and trailing slashes mean nothing, and neither does a `.` that is not at the start.

    components "a//b/."  = [a, b]
    components "./a/../" = [., a, ..]

Two paths are the same when their components are; their texts may differ.
-/

namespace TapSuite.Path

/-- A step of a path. -/
inductive Component where
  | root
  | here
  | up
  | name (text : List Char)
  deriving DecidableEq

/-- The step that a piece between slashes stands for; an empty piece and `.` are none. -/
def Component.ofPiece? (piece : List Char) : Option Component :=
  if piece = [] ∨ piece = ['.'] then none
  else if piece = ['.', '.'] then some .up
  else some (.name piece)

/-- The step that only the start of a path can be. -/
def startOf (path : List Char) : Option Component :=
  if path.head? = some '/' then some .root
  else if path.takeWhile (· ≠ '/') = ['.'] then some .here
  else none

def components (path : List Char) : List Component :=
  (startOf path).toList ++ (Text.segments '/' path).filterMap Component.ofPiece?

/-- The name that a path ends in, if it ends in one. -/
def fileName? (path : List Char) : Option (List Char) :=
  match (components path).getLast? with
  | some (.name text) => some text
  | _ => none

/-- A path below a directory.  The text of the directory stays, and an absolute path replaces
it. -/
def join (dir path : List Char) : List Char :=
  if path.head? = some '/' then path
  else if dir = [] ∨ dir.getLast? = some '/' then dir ++ path
  else dir ++ '/' :: path

end TapSuite.Path
