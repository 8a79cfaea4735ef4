import TapSuite.Toml.Value

/-!
# Tables under construction

A document defines its tables piece by piece.  Each table remembers where it came from, which
decides what may be added to it:

* `implied`: named on the way to a header's table; it may still get a header of its own;
* `dotted`: named on the way to a dotted key; only dotted keys may add to it;
* `declared`: given by a header, or the document itself; it may get no second header.

An inline table or any other value is closed.
-/

namespace TapSuite.Toml

/-- Where a table came from. -/
inductive Origin where
  | implied
  | dotted
  | declared
  deriving DecidableEq

/-- A member of a table under construction. -/
inductive Node where
  | closed (v : Value)
  | table (origin : Origin) (members : List (String × Node))
  /-- An array of tables: the finished ones, latest first, and the one under construction. -/
  | tables (earlier : List (List (String × Node))) (last : List (String × Node))

/-- The members of a table under construction. -/
abbrev Members := List (String × Node)

/-! ## Looking up and replacing -/

/-- The members with another node at a key that they hold, or with the node as a new last one. -/
def setMember (key : String) (node : Node) : Members → Members
  | [] => [(key, node)]
  | (k, n) :: rest => if k = key then (k, node) :: rest else (k, n) :: setMember key node rest

/-- The members after a change of the table at a path.  Missing tables on the way come into being,
as `dotted` ones if the path belongs to a dotted key. -/
def changeAt (dotted : Bool) (path : List String) (change : Origin → Members → Option Members)
    (origin : Origin) (members : Members) : Option Members :=
  match path with
  | [] => change origin members
  | key :: path =>
    match members.lookup key with
    | none =>
      let fresh := if dotted then Origin.dotted else .implied
      (changeAt dotted path change fresh []).map fun inner =>
        setMember key (.table fresh inner) members
    | some (.closed _) => none
    | some (.table inside inner) =>
      if dotted ∧ inside = .declared then none
      else
        (changeAt dotted path change inside inner).map fun inner =>
          setMember key (.table inside inner) members
    | some (.tables earlier last) =>
      (changeAt dotted path change .declared last).map fun last =>
        setMember key (.tables earlier last) members

/-! ## Definitions -/

/-- Adds a value under a key whose table is `viaDots` if dots led to it. -/
def define (viaDots : Bool) (key : String) (v : Value) (origin : Origin) (members : Members) :
    Option Members :=
  if (viaDots ∧ origin ≠ .dotted) ∨ (viaDots = false ∧ origin = .dotted) then none
  else if (members.lookup key).isSome then none
  else some (setMember key (.closed v) members)

/-- Adds a value under a dotted key, all but whose last part lead to its table. -/
def defineAt (path : List String) (key : String) (v : Value) (origin : Origin)
    (members : Members) : Option Members :=
  changeAt true path (define (path ≠ []) key v) origin members

/-! ## Sections -/

/-- The header of a section: its key, and whether it starts the next table of an array. -/
structure Header where
  path : List String
  key : String
  isNext : Bool
  deriving DecidableEq

/-- The members that a table has before its own section: those that headers of tables inside it
implied.  None if there can be no such section. -/
def membersAt? (key : String) (path : List String) (members : Members) : Option Members :=
  match path with
  | [] =>
    match members.lookup key with
    | none => some []
    | some (.table .implied inner) => some inner
    | some _ => none
  | part :: path =>
    match members.lookup part with
    | none => some []
    | some (.closed _) => none
    | some (.table _ inner) => membersAt? key path inner
    | some (.tables _ last) => membersAt? key path last

/-- The members that a section starts with. -/
def Header.start? (h : Header) (members : Members) : Option Members :=
  if h.isNext then some [] else membersAt? h.key h.path members

/-- Puts a finished section under its key. -/
def close (h : Header) (inner : Members) (_ : Origin) (members : Members) : Option Members :=
  if h.isNext then
    match members.lookup h.key with
    | none => some (setMember h.key (.tables [] inner) members)
    | some (.tables earlier last) =>
      some (setMember h.key (.tables (last :: earlier) inner) members)
    | some _ => none
  else some (setMember h.key (.table .declared inner) members)

/-- A document in the reading: its finished sections, and the section that entries go to, which has
no header at first. -/
structure Draft where
  finished : Members := []
  header : Option Header := none
  entries : Members := []

/-- The members of a document whose last section is finished. -/
def Draft.finish? (d : Draft) : Option Members :=
  match d.header with
  | none => some d.entries
  | some h => changeAt false h.path (close h d.entries) .declared d.finished

/-! ## Finished values -/

mutual
def Node.toValue : Node → Value
  | .closed v => v
  | .table _ members => .table (membersToTable members)
  | .tables earlier last => .list (tablesToList earlier [.table (membersToTable last)])

def membersToTable : List (String × Node) → Table
  | [] => []
  | (key, node) :: rest => (key, node.toValue) :: membersToTable rest

/-- The finished tables of an array, put before later ones. -/
def tablesToList : List (List (String × Node)) → List Value → List Value
  | [], later => later
  | members :: earlier, later => tablesToList earlier (.table (membersToTable members) :: later)
end

end TapSuite.Toml
