import TapSuite.Tap.Block
import TapSuite.Tap.Printer

/-!
# Trees of subtests

A subtest is a point together with the subtests that it sums up.  It is printed with its children
before its own point and deeper than it:

    # comment
        ok 1 - child
        1..1
    ok 1 - parent
      ---
      message: quoted lines
      ...

A comment line, a plan after the children and a YAML block after the point are optional.  Siblings
share their indentation, which may be any blanks.
-/

namespace TapSuite.Tap

open Text

/-! ## Indentation -/

/-- The blanks before the text of a line. -/
structure Indent where
  blanks : List Char
  all_blank : blanks.all isBlank = true
  one_line : '\n' ∉ blanks
  deriving DecidableEq

/-- The width of an indentation is the depth of its lines. -/
def Indent.width (i : Indent) : Nat := Text.width i.blanks

theorem Indent.isBlank_of_mem (i : Indent) : ∀ c ∈ i.blanks, isBlank c = true :=
  List.all_eq_true.mp i.all_blank

/-! ## Trees -/

/-- A point with its subtests.  The point's own depth is of no account: the place in the tree says
how deep it stands.  `inner` is the indentation of the children and of the plan that counts them. -/
inductive Subtest where
  | node (comment : Option (Indent × List Char)) (inner : Indent) (children : List Subtest)
      (plan : Option Nat) (point : TestPoint) (block : Option Block)

/-- A point moved to a depth. -/
def TestPoint.placed (p : TestPoint) (depth : Nat) : TestPoint := { p with depth }

def commentLine (comment : Indent × List Char) : List Char := comment.1.blanks ++ '#' :: comment.2

mutual

def Subtest.lines (indent : Indent) : Subtest → List (List Char)
  | .node comment inner children plan point block =>
    (comment.map commentLine).toList ++ forestLines inner children ++
      (plan.map (inner.blanks ++ planLine ·)).toList ++
      (indent.blanks ++ point.text) :: (block.map Block.lines).getD []

/-- The lines of subtests at an indentation, one after the other. -/
def forestLines (indent : Indent) : List Subtest → List (List Char)
  | [] => []
  | t :: rest => t.lines indent ++ forestLines indent rest

end

mutual

/-- The points of a subtest at an indentation, in the order of their lines. -/
def Subtest.points (indent : Indent) : Subtest → List TestPoint
  | .node _ inner children _ point _ => forestPoints inner children ++ [point.placed indent.width]

def forestPoints (indent : Indent) : List Subtest → List TestPoint
  | [] => []
  | t :: rest => t.points indent ++ forestPoints indent rest

end

mutual

/-- The points without children of a subtest at an indentation. -/
def Subtest.childless (indent : Indent) : Subtest → List TestPoint
  | .node _ inner children _ point _ =>
    match children with
    | [] => [point.placed indent.width]
    | t :: rest => t.childless inner ++ forestChildless inner rest

/-- The points without children of subtests at an indentation. -/
def forestChildless (indent : Indent) : List Subtest → List TestPoint
  | [] => []
  | t :: rest => t.childless indent ++ forestChildless indent rest

end

mutual

/-- Whether a subtest can be printed at an indentation: children deeper than their parent,
descriptions that can be read, comments on one line, blocks whose lines stay in them. -/
def Subtest.WellFormed (indent : Indent) : Subtest → Prop
  | .node comment inner children _ point block =>
    (∀ c ∈ comment, '\n' ∉ c.2) ∧ indent.width < inner.width ∧ forestWellFormed inner children ∧
      CanonicalText point.description.toList ∧ ∀ b ∈ block, b.Opens indent.width ∧ b.Closes

/-- Whether subtests can be printed at an indentation. -/
def forestWellFormed (indent : Indent) : List Subtest → Prop
  | [] => True
  | t :: rest => t.WellFormed indent ∧ forestWellFormed indent rest

end

mutual

/-- Whether a subtest can be printed is decided node by node. -/
def Subtest.decideWellFormed (indent : Indent) : (t : Subtest) → Decidable (t.WellFormed indent)
  | .node comment inner children _ point block =>
    letI := forestDecideWellFormed inner children
    inferInstanceAs (Decidable
      ((∀ c ∈ comment, '\n' ∉ c.2) ∧ indent.width < inner.width ∧
        forestWellFormed inner children ∧ CanonicalText point.description.toList ∧
        ∀ b ∈ block, b.Opens indent.width ∧ b.Closes))

/-- Whether subtests can be printed is decided one after the other. -/
def forestDecideWellFormed (indent : Indent) :
    (ts : List Subtest) → Decidable (forestWellFormed indent ts)
  | [] => isTrue trivial
  | t :: rest =>
    letI := t.decideWellFormed indent
    letI := forestDecideWellFormed indent rest
    inferInstanceAs (Decidable (t.WellFormed indent ∧ forestWellFormed indent rest))

end

instance (indent : Indent) (ts : List Subtest) : Decidable (forestWellFormed indent ts) :=
  forestDecideWellFormed indent ts

def forestText (indent : Indent) (ts : List Subtest) : String :=
  String.ofList (unlines (forestLines indent ts))

end TapSuite.Tap
