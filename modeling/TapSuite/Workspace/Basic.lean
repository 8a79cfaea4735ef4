import TapSuite.Text.Utf8
import TapSuite.Text.Lines

/-!
# Workspaces

A workspace is the tree of files that a run sees, and the directory that it runs in.  Every entry
has a position: the names that lead to it from the root.  Names are bytes, and need not be text.

    entries = [(["w"], directory), (["w", "a.js"], file …), (["w", "l"], link "a.js")]
-/

namespace TapSuite

/-- The bytes of a file or of a name. -/
abbrev Bytes := List UInt8

namespace Workspace

/-- The names from the root to an entry. -/
abbrev Position := List Bytes

/-- What can be found at a position. -/
inductive Entry where
  | file (contents : Bytes)
  | directory
  | link (target : Bytes)
  deriving DecidableEq

end Workspace

open Workspace in
/-- The tree of files that a run sees, in the order in which its entries were made. -/
structure Workspace where
  entries : List (Position × Entry)
  /-- The directory that relative paths start from. -/
  here : Position
  deriving DecidableEq

namespace Workspace

def lookUp? (w : Workspace) (p : Position) : Option Entry :=
  if p = [] then some .directory else w.entries.lookup p

def isDirectoryAt (w : Workspace) (p : Position) : Bool := w.lookUp? p = some .directory

def add (w : Workspace) (p : Position) (e : Entry) : Workspace :=
  { w with entries := w.entries ++ [(p, e)] }

/-- The workspace with the contents of a file at a position, which may be new. -/
def put (w : Workspace) (p : Position) (contents : Bytes) : Workspace :=
  if (w.entries.lookup p).isSome then
    { w with entries := w.entries.map fun (q, e) => if q = p then (q, .file contents) else (q, e) }
  else w.add p (.file contents)

/-- The name of an entry that lies right in a directory. -/
def nameIn? (dir p : Position) : Option Bytes :=
  match p.getLast? with
  | some name => if p.dropLast = dir then some name else none
  | none => none

def names (w : Workspace) (dir : Position) : List Bytes :=
  w.entries.filterMap fun (p, _) => nameIn? dir p

end Workspace

end TapSuite
