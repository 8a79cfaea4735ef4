import TapSuite.Path.Basic
import TapSuite.Workspace.Resolve

/-!
# Files and directories of a workspace

Reading a text, listing a directory, making directories and writing a file.  An operation that
changes the workspace returns the new one, also where it fails halfway.
-/

namespace TapSuite.Workspace

/-! ## Reading -/

/-- The bytes of the file that a path leads to. -/
def readBytes (w : Workspace) (path : String) : Except Fault Bytes :=
  match w.resolve path with
  | .error fault => .error fault
  | .ok p =>
    match w.lookUp? p with
    | some (.file contents) => .ok contents
    | _ => .error .isADirectory

/-- The text of the file that a path leads to. -/
def readText (w : Workspace) (path : String) : Except Fault String :=
  match w.readBytes path with
  | .error fault => .error fault
  | .ok bytes =>
    match Text.Utf8.text? bytes with
    | some t => .ok (String.ofList t)
    | none => .error .notUtf8

/-- The names in the directory that a path leads to. -/
def list (w : Workspace) (path : String) : Except Fault (List Bytes) :=
  match w.resolve path with
  | .error fault => .error fault
  | .ok p => if w.isDirectoryAt p then .ok (w.names p) else .error .notADirectory

/-! ## Making directories -/

/-- The workspace with a directory where the last of some steps leads. -/
def makeDirectory (w : Workspace) (first : Position) (path : List Bytes) : Except Fault Workspace :=
  match path.getLast? with
  | none => .error .alreadyExists
  | some name =>
    match w.follow linkLimit first path.dropLast with
    | .error fault => .error fault
    | .ok dir =>
      if w.isDirectoryAt dir = false then .error .notADirectory
      else if stays name ∨ name = dotDot then .error .alreadyExists
      else
        match w.entry? dir name with
        | .error fault => .error fault
        | .ok (some _) => .error .alreadyExists
        | .ok none => .ok (w.add (dir ++ [name]) .directory)

def leadsToDirectory (w : Workspace) (first : Position) (path : List Bytes) : Bool :=
  match w.follow linkLimit first path with
  | .error _ => false
  | .ok p => w.isDirectoryAt p

/-- A directory made or found: the fault of making it counts only if there is none. -/
def ensureDirectory (w : Workspace) (first : Position) (path : List Bytes) :
    Except Fault Unit × Workspace :=
  match w.makeDirectory first path with
  | .ok w => (.ok (), w)
  | .error fault => (if w.leadsToDirectory first path then .ok () else .error fault, w)

/-- The directory that steps lead to, made together with those of its ancestors that are missing.
The ancestors are given as steps too, the nearest first. -/
def ensureAll (w : Workspace) (first : Position) (path : List Bytes) :
    List (List Bytes) → Except Fault Unit × Workspace
  | [] => w.ensureDirectory first path
  | parent :: rest =>
    match w.makeDirectory first path with
    | .error .notFound =>
      match ensureAll w first parent rest with
      | (.ok (), w) => w.ensureDirectory first path
      | failed => failed
    | _ => w.ensureDirectory first path

def componentName : Path.Component → Bytes
  | .root => []
  | .here => dot
  | .up => dotDot
  | .name text => Text.Utf8.encode text

/-- The nonempty proper prefixes of a list, the longest first. -/
def ancestors {α : Type} : List α → List (List α)
  | [] => []
  | [_] => []
  | a :: b :: rest => (ancestors (b :: rest)).map (a :: ·) ++ [[a]]

/-- The directory of a path, made together with its missing ancestors. -/
def makeDirectories (w : Workspace) (path : String) : Except Fault Unit × Workspace :=
  if path = "" then (.ok (), w)
  else
    match pathBytes path with
    | .error fault => (.error fault, w)
    | .ok bytes =>
      w.ensureAll (start bytes w.here) ((Text.segments slash bytes).filter (· ≠ []))
        (ancestors (((Path.components path.toList).map componentName).filter (· ≠ [])))

/-! ## Writing -/

/-- The workspace with a text in the file of a path. -/
def writeText (w : Workspace) (path contents : String) : Except Fault Workspace :=
  match w.place path with
  | .error fault => .error fault
  | .ok p => .ok (w.put p (Text.Utf8.encode contents.toList))

end TapSuite.Workspace
