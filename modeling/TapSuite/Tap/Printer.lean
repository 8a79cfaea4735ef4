import TapSuite.Tap.Parser

/-!
# Writing TAP

The canonical text of a report: its points in order, then the plan, then `Bail out!`.

    render ⟨[⟨false, some 2, "reads #1", some .todo, 4⟩], some 3, true⟩
      = "    not ok 2 - reads \#1 # TODO\n1..3\nBail out!\n"

Every `#` of a description is written `\#`, so the first bare `#` of a line starts its directive.
A report is canonical if its descriptions have no blanks at their ends and no line feeds: those are
the reports that reading a stream can give.
-/

namespace TapSuite.Tap

open Text

/-! ## Points -/

/-- The text with `\#` for every `#`. -/
def escapeHash : List Char → List Char
  | [] => []
  | c :: t => if c = '#' then '\\' :: '#' :: escapeHash t else c :: escapeHash t

def Directive.word : Directive → List Char
  | .skip => ['S', 'K', 'I', 'P']
  | .todo => ['T', 'O', 'D', 'O']

def verdictWord (ok : Bool) : List Char :=
  if ok then ['o', 'k'] else ['n', 'o', 't', ' ', 'o', 'k']

def digitsOf (n : Nat) : List Char := (toString n).toList

/-- The number of a point as it follows the verdict. -/
def numberField : Option UInt64 → List Char
  | none => []
  | some n => ' ' :: digitsOf n.toNat

/-- The directive of a point as it follows the description. -/
def directiveField : Option Directive → List Char
  | none => []
  | some d => [' ', '#', ' '] ++ d.word

/-- The indentation of a depth. -/
def spaces (depth : Nat) : List Char := List.replicate depth ' '

def TestPoint.text (p : TestPoint) : List Char :=
  verdictWord p.ok ++ numberField p.number ++ [' ', '-', ' '] ++ escapeHash p.description.toList ++
    directiveField p.directive

def TestPoint.line (p : TestPoint) : List Char := spaces p.depth ++ p.text

/-! ## Reports -/

def planLine (count : Nat) : List Char := ['1', '.', '.'] ++ digitsOf count

def Report.lines (r : Report) : List (List Char) :=
  r.points.map TestPoint.line ++ (r.plan.map (planLine ·.toNat)).toList ++
    if r.bailedOut then [bailOutMark] else []

/-- The canonical text of a report. -/
def Report.render (r : Report) : String := String.ofList (unlines r.lines)

/-! ## Canonical reports -/

/-- Whether a description is one that can be read: no blanks at its ends, no line feed. -/
def CanonicalText (t : List Char) : Prop := trim t = t ∧ '\n' ∉ t

instance (t : List Char) : Decidable (CanonicalText t) := inferInstanceAs (Decidable (_ ∧ _))

/-- Whether every description of a report can be read. -/
def Report.Canonical (r : Report) : Prop := ∀ p ∈ r.points, CanonicalText p.description.toList

instance (r : Report) : Decidable r.Canonical := inferInstanceAs (Decidable (∀ p ∈ r.points, _))

end TapSuite.Tap
