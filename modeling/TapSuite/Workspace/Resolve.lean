import TapSuite.Fault
import TapSuite.Workspace.Basic

/-!
# Where paths lead

A path is followed step by step from the root or from the workspace's own directory.  Each step
starts in a directory; a link puts the steps of its target in front of the steps that remain.

    resolve? w "a/../b"   the position of b, if a is a directory
    place? w "a/new"      the position where a file of that path is, or would be made

A slash at the end asks for a directory.
-/

namespace TapSuite.Workspace

/-! ## Steps -/

def slash : UInt8 := 0x2F

/-- The name `.`. -/
def dot : Bytes := [0x2E]

/-- The name `..`. -/
def dotDot : Bytes := [0x2E, 0x2E]

/-- A step that goes nowhere.  The empty one stands for a slash at the end. -/
def stays (name : Bytes) : Bool := name.isEmpty || name = dot

def steps (path : Bytes) : List Bytes :=
  (Text.segments slash path).filter (· ≠ []) ++ (if path.getLast? = some slash then [[]] else [])

def start (path : Bytes) (here : Position) : Position :=
  if path.head? = some slash then [] else here

def longestName : Nat := 255

/-- The number of bytes from which on a path is too long. -/
def pathLimit : Nat := 4096

/-- The number of links that a path may lead through. -/
def linkLimit : Nat := 40

/-! ## Following -/

/-- The entry that a name leads to from a directory; `.` and `..` are no names here. -/
def entry? (w : Workspace) (dir : Position) (name : Bytes) : Except Fault (Option Entry) :=
  if longestName < name.length then .error .nameTooLong else .ok (w.lookUp? (dir ++ [name]))

/-- The position that steps lead to.  `links` bounds the number of links on the way. -/
def follow (w : Workspace) (links : Nat) (dir : Position) : List Bytes → Except Fault Position
  | [] => .ok dir
  | name :: rest =>
    if w.isDirectoryAt dir = false then .error .notADirectory
    else if stays name then follow w links dir rest
    else if name = dotDot then follow w links dir.dropLast rest
    else
      match w.entry? dir name with
      | .error fault => .error fault
      | .ok none => .error .notFound
      | .ok (some (.link target)) =>
        match links with
        | 0 => .error .tooManyLinks
        | links + 1 => follow w links (start target dir) (steps target ++ rest)
      | .ok (some _) => follow w links (dir ++ [name]) rest
  termination_by names => (links, names.length)

/-- The position where steps lead to a file, or where they would make one. -/
def placeFrom (w : Workspace) (links : Nat) (dir : Position) : List Bytes → Except Fault Position
  | [] => .error .isADirectory
  | name :: rest =>
    if w.isDirectoryAt dir = false then .error .notADirectory
    else if rest = [[]] then .error .isADirectory
    else if stays name then placeFrom w links dir rest
    else if name = dotDot then placeFrom w links dir.dropLast rest
    else
      match w.entry? dir name with
      | .error fault => .error fault
      | .ok none => if rest = [] then .ok (dir ++ [name]) else .error .notFound
      | .ok (some (.link target)) =>
        match links with
        | 0 => .error .tooManyLinks
        | links + 1 => placeFrom w links (start target dir) (steps target ++ rest)
      | .ok (some (.file _)) =>
        if rest = [] then .ok (dir ++ [name]) else .error .notADirectory
      | .ok (some .directory) => placeFrom w links (dir ++ [name]) rest
  termination_by names => (links, names.length)

/-! ## Paths -/

/-- The bytes of a path that the system takes. -/
def pathBytes (path : String) : Except Fault Bytes :=
  let bytes := Text.Utf8.encode path.toList
  if bytes.contains 0 then .error .nulInPath
  else if bytes.isEmpty then .error .notFound
  else if pathLimit ≤ bytes.length then .error .nameTooLong
  else .ok bytes

/-- The position that a path leads to. -/
def resolve (w : Workspace) (path : String) : Except Fault Position :=
  match pathBytes path with
  | .error fault => .error fault
  | .ok bytes => w.follow linkLimit (start bytes w.here) (steps bytes)

/-- The position where a file of this path is, or would be made. -/
def place (w : Workspace) (path : String) : Except Fault Position :=
  match pathBytes path with
  | .error fault => .error fault
  | .ok bytes => w.placeFrom linkLimit (start bytes w.here) (steps bytes)

/-- What a path leads to. -/
def find? (w : Workspace) (path : String) : Option Entry :=
  match w.resolve path with
  | .error _ => none
  | .ok p => w.lookUp? p

/-- Whether a path leads anywhere. -/
def holds (w : Workspace) (path : String) : Bool := (w.find? path).isSome

def isDirectory (w : Workspace) (path : String) : Bool := w.find? path = some .directory

def Entry.isFile : Entry → Bool
  | .file _ => true
  | _ => false

def isFile (w : Workspace) (path : String) : Bool := (w.find? path).any Entry.isFile

end TapSuite.Workspace
