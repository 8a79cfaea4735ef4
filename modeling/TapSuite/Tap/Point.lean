import TapSuite.Tap.Basic
import TapSuite.Text.Blank

/-!
# Test point lines

The fields of a point line, read from a line without surrounding blanks:

    ok 12 - reads \#1 # SKIP no database

A verdict, an optional number, an optional dash, the description, and after the first `#` that no
backslash precedes the directive.  In the description `\#` stands for `#`.
-/

namespace TapSuite.Tap

open Text

/-! ## Numbers -/

/-- The number that decimal digits write; none for no digits or from 2^64 on. -/
def number? (digits : List Char) : Option UInt64 :=
  let n := digits.foldl (fun n c => 10 * n + (c.toNat - '0'.toNat)) 0
  if digits.isEmpty ∨ UInt64.size ≤ n then none else some (UInt64.ofNat n)

/-! ## Descriptions and directives -/

/-- The text before the first `#` that no backslash precedes, and the text after it, if there is
one.  `escaped` says that the character before the text is a backslash. -/
def cutComment (escaped : Bool) : List Char → List Char × Option (List Char)
  | [] => ([], none)
  | c :: t =>
    if c = '#' ∧ escaped = false then ([], some t)
    else
      let (before, after) := cutComment (c = '\\') t
      (c :: before, after)

/-- The text with `#` for every `\#`. -/
def unescapeHash : List Char → List Char
  | '\\' :: '#' :: t => '#' :: unescapeHash t
  | c :: t => c :: unescapeHash t
  | [] => []

/-- The directive that a comment starts with, in any letter case. -/
def directive? (comment : List Char) : Option Directive :=
  let word := ((trimStart comment).take 4).map Char.toUpper
  if word = ['S', 'K', 'I', 'P'] then some .skip
  else if word = ['T', 'O', 'D', 'O'] then some .todo
  else none

/-! ## Lines -/

/-- The verdict of a point line and what follows it. -/
def verdict? (line : List Char) : Option (Bool × List Char) :=
  match line with
  | 'n' :: 'o' :: 't' :: ' ' :: 'o' :: 'k' :: rest => some (false, rest)
  | 'o' :: 'k' :: rest => some (true, rest)
  | _ => none

def dropDash : List Char → List Char
  | '-' :: t => t
  | t => t

/-- The fields that follow the verdict. -/
def pointOf (ok : Bool) (fields : List Char) (depth : Nat) : TestPoint :=
  let fields := trimStart fields
  let body := dropDash (trimStart (fields.dropWhile Char.isDigit))
  let (description, comment) := cutComment false body
  { ok
    number := number? (fields.takeWhile Char.isDigit)
    description := String.ofList (unescapeHash (trim description))
    directive := comment.bind directive?
    depth }

/-- The point that a line without surrounding blanks writes.  The verdict must stand alone:
`okay` is no point. -/
def TestPoint.read? (line : List Char) (depth : Nat) : Option TestPoint :=
  match verdict? line with
  | none => none
  | some (ok, fields) =>
    if fields.head?.all isBlank then some (pointOf ok fields depth) else none

/-- The count of a plan line `1..N`; what follows the digits is ignored. -/
def plan? (line : List Char) : Option UInt64 :=
  match line with
  | '1' :: '.' :: '.' :: rest => number? (rest.takeWhile Char.isDigit)
  | _ => none

end TapSuite.Tap
