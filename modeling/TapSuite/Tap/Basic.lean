import TapSuite.Case

/-!
# TAP reports

A report of the Test Anything Protocol is the list of its test points, the plan at the outermost
level, and whether the producer bailed out.

Subtests are printed, indented, before the point that sums them up.  A point is therefore a parent
exactly when the point right before it is indented deeper, and only the other points, the *leaves*,
are cases.
-/

namespace TapSuite.Tap

/-! ## Points -/

/-- A mark after `#` that takes a point out of the verdict. -/
inductive Directive where
  | skip
  | todo
  deriving DecidableEq

/-- One `ok` or `not ok` line; `depth` is the width of its indentation in bytes. -/
structure TestPoint where
  ok : Bool
  number : Option UInt64
  description : String
  directive : Option Directive
  depth : Nat
  deriving DecidableEq

/-- A directive decides the outcome; without one the point's own verdict does. -/
def TestPoint.outcome (p : TestPoint) : Outcome :=
  match p.directive with
  | some .skip => .skipped
  | some .todo => .todo
  | none => if p.ok then .passed else .failed

/-- A point without description is named after its number, `#0` if it has none. -/
def TestPoint.caseName (p : TestPoint) : String :=
  if p.description.isEmpty then "#" ++ toString (p.number.getD 0).toNat else p.description

/-- The case that a leaf stands for. -/
def TestPoint.toCase (p : TestPoint) : Case := ⟨p.caseName, p.outcome⟩

/-! ## Reports -/

/-- What one TAP stream says. -/
structure Report where
  points : List TestPoint := []
  plan : Option UInt64 := none
  bailedOut : Bool := false
  deriving DecidableEq

/-- The points that sum up no subtests, given the depth of the point before the list, if any. -/
def leavesAfter (before : Option Nat) : List TestPoint → List TestPoint
  | [] => []
  | p :: rest =>
    if before.any (p.depth < ·) then leavesAfter (some p.depth) rest
    else p :: leavesAfter (some p.depth) rest

/-- The points without subtests of their own. -/
def Report.leaves (r : Report) : List TestPoint := leavesAfter none r.points

def Report.failedCount (r : Report) : Nat := r.leaves.countP (·.outcome = .failed)

/-- The cases of a report, one for each leaf. -/
def Report.cases (r : Report) : List Case := r.leaves.map TestPoint.toCase

end TapSuite.Tap
