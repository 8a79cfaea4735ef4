import TapSuite.Toml.Line
import TapSuite.Toml.Number
import TapSuite.Toml.Scope

/-!
# Reading TOML

The lines of a document get their meaning one after the other: words become keys and values, and
values get their place.

    parse "a.b = [1, 2]" = .ok {a = {b = [1, 2]}}

The layout of the whole document comes before the meaning of its first word, so that a document
with a wrong layout is malformed whatever else is wrong with it.  Then the first flaw counts.
-/

namespace TapSuite.Toml

/-! ## Words -/

/-- A result, or the flaw of a text that has none. -/
def orMalformed {α : Type} : Option α → Except Flaw α
  | some a => .ok a
  | none => .error .malformed

/-- The key that parts make: all of them but the last, and the last. -/
def key? (parts : List Word) : Except Flaw (List String × String) := do
  let names ← parts.mapM fun w => orMalformed w.part?
  if depthLimit < names.length then .error .longKey
  else orMalformed (names.getLast?.map fun last => (names.dropLast, last))

def Word.value? (w : Word) : Option Value :=
  match w.spelling with
  | .bare => bareValue? w.text
  | _ => w.quoted?.map fun s => .text (String.ofList s)

/-! ## Values -/

mutual
def Item.value : Item → Except Flaw Value
  | .word w => orMalformed w.value?
  | .list items => (valuesOf items).map .list
  | .members entries => (membersOf [] entries).map fun members => .table (membersToTable members)

def valuesOf : List Item → Except Flaw (List Value)
  | [] => .ok []
  | item :: rest =>
    match item.value with
    | .error flaw => .error flaw
    | .ok v => (valuesOf rest).map (v :: ·)

/-- The members of an inline table, after the members read so far. -/
def membersOf (before : Members) : List (List Word × Item) → Except Flaw Members
  | [] => .ok before
  | (parts, item) :: rest =>
    match key? parts, item.value with
    | .error flaw, _ => .error flaw
    | .ok _, .error flaw => .error flaw
    | .ok (path, key), .ok v =>
      match defineAt path key v .declared before with
      | none => .error .malformed
      | some members => membersOf members rest
end

/-! ## Documents -/

def Draft.openSection (d : Draft) (isNext : Bool) (parts : List Word) : Except Flaw Draft := do
  let finished ← orMalformed d.finish?
  let (path, key) ← key? parts
  let header : Header := { path, key, isNext }
  let entries ← orMalformed (header.start? finished)
  .ok { finished, header := some header, entries }

def Draft.add (d : Draft) : Line → Except Flaw Draft
  | .table parts => d.openSection false parts
  | .nextTable parts => d.openSection true parts
  | .entry parts item => do
    let (path, key) ← key? parts
    let v ← item.value
    let entries ← orMalformed (defineAt path key v .declared d.entries)
    .ok { d with entries }

/-- The text without a byte order mark at its start. -/
def dropMark : List Char → List Char
  | c :: t => if c.toNat = 0xFEFF then t else c :: t
  | [] => []

/-- The table that a document defines. -/
def parse (text : String) : Except Flaw Table := do
  let lines ← orMalformed (lines? (dropMark text.toList))
  let draft ← lines.foldlM Draft.add {}
  let members ← orMalformed draft.finish?
  .ok (membersToTable members)

end TapSuite.Toml
