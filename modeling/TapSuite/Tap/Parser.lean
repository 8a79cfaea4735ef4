import TapSuite.Tap.Point
import TapSuite.Text.Lines

/-!
# Reading TAP

A stream is read line by line.  Only test points, plans at the outermost level and `Bail out!`
matter; all other lines are passed over.

A YAML block, `---` indented deeper than the test point right before it, hides every line up to
`...` at its own indentation, or up to the first line that is indented less.  Blank lines end
nothing.

    parse text = Report.ofItems (scan {} (lines text))
-/

namespace TapSuite.Tap

open Text

/-! ## Lines -/

/-- A line cut into its indentation width and its text without surrounding blanks. -/
structure Line where
  depth : Nat
  text : List Char
  deriving DecidableEq

/-- The indentation and the text of a raw line. -/
def Line.of (raw : List Char) : Line := ⟨width (indent raw), trimEnd (trimStart raw)⟩

def nonblank (ls : List Line) : List Line := ls.filter (!·.text.isEmpty)

/-- What a line can add to a report. -/
inductive Item where
  | point (p : TestPoint)
  | plan (count : UInt64)
  | bailOut
  deriving DecidableEq

/-! ## The reader's state -/

/-- What the reader remembers between lines: the depth of the open YAML block, and the depth of the
test point that a block could follow. -/
structure Mode where
  block : Option Nat := none
  point : Option Nat := none
  deriving DecidableEq

/-- Whether a line stays inside an open block of the given depth. -/
def staysInside (depth : Nat) (line : Line) : Bool :=
  line.text.isEmpty || decide (depth ≤ line.depth)

/-- How a line starts that says that a producer gave up. -/
def bailOutMark : List Char := ['B', 'a', 'i', 'l', ' ', 'o', 'u', 't', '!']

/-- What a line that is no test point adds: a plan counts only at the outermost level. -/
def remark? (line : Line) : Option Item :=
  if bailOutMark.isPrefixOf line.text then some .bailOut
  else if line.depth = 0 then (plan? line.text).map .plan
  else none

def readOutside (point : Option Nat) (line : Line) : Mode × Option Item :=
  if line.text = ['-', '-', '-'] ∧ point.any (· < line.depth) then (⟨some line.depth, none⟩, none)
  else
    match TestPoint.read? line.text line.depth with
    | some p => (⟨none, some line.depth⟩, some (.point p))
    | none => if line.text.isEmpty then (⟨none, point⟩, none) else ({}, remark? line)

/-- One line read: the new state and what the line adds. -/
def step (m : Mode) (line : Line) : Mode × Option Item :=
  match m.block with
  | none => readOutside m.point line
  | some depth =>
    if line.text = ['.', '.', '.'] ∧ line.depth = depth then (⟨none, m.point⟩, none)
    else if staysInside depth line then (m, none)
    else readOutside m.point line

/-- What lines add, read from a given state. -/
def scan (m : Mode) : List Line → List Item
  | [] => []
  | line :: rest =>
    match step m line with
    | (m', none) => scan m' rest
    | (m', some item) => item :: scan m' rest

def modeAfter (m : Mode) (ls : List Line) : Mode := ls.foldl (fun m line => (step m line).1) m

/-! ## Reports -/

def Item.point? : Item → Option TestPoint
  | .point p => some p
  | _ => none

def Item.plan? : Item → Option UInt64
  | .plan n => some n
  | _ => none

/-- The report that items make up; of several plans the last counts. -/
def Report.ofItems (items : List Item) : Report where
  points := items.filterMap Item.point?
  plan := (items.filterMap Item.plan?).getLast?
  bailedOut := items.contains .bailOut

/-- The lines of a stream as the reader sees them. -/
def linesOf (text : List Char) : List Line := (lines text).map Line.of

def parse (text : String) : Report := Report.ofItems (scan {} (linesOf text.toList))

/-! ## Lemmas -/

@[simp] theorem scan_nil (m : Mode) : scan m [] = [] := rfl

theorem scan_cons (m : Mode) (line : Line) (rest : List Line) :
    scan m (line :: rest) = (step m line).2.toList ++ scan (step m line).1 rest := by
  rw [scan]
  split
  · next h => simp [h]
  · next h => simp [h]

/-- A stream read in two parts: the second starts in the state that the first leaves. -/
theorem scan_append (m : Mode) (a b : List Line) :
    scan m (a ++ b) = scan m a ++ scan (modeAfter m a) b := by
  induction a generalizing m with
  | nil => simp [modeAfter]
  | cons line a ih => rw [List.cons_append, scan_cons, scan_cons, ih]; simp [modeAfter]

end TapSuite.Tap
