import TapSuite.Tap.Parser
import TapSuite.Text.Offset

/-!
# Reading TAP by byte offsets

A stream read line by line, the fields of its lines cut out at offsets into their UTF-8 bytes.  An
answer is refused (the outer `none`) where a byte beyond the end of a text is looked at, where a cut
is beyond the end or inside a character, and where a width would be negative.

    commentOffset? t = the offset of the first `#` that no backslash precedes
    TestPoint.readByOffsets? line depth = TestPoint.read? line depth, and nothing is refused
    parseByOffsets? text = parse text, and nothing is refused

Bytes of longer characters are never `#` nor a backslash, so looking at bytes finds characters.
-/

namespace TapSuite.Tap

open Text

/-! ## Comments -/

/-- Whether the byte at an offset is a `#` that no backslash precedes. -/
def startsComment? (bs : List UInt8) (offset : Nat) : Option Bool :=
  match bs[offset]? with
  | none => none
  | some b =>
    if b ≠ 0x23 then some false
    else if offset = 0 then some true
    else bs[offset - 1]?.map (· ≠ 0x5C)

/-- The first offset at which a comment starts. -/
def commentOffset? (t : List Char) : Option (Option Nat) :=
  let bs := Utf8.encode t
  (List.range bs.length).findM? (startsComment? bs)

/-- The directive of a comment, from its first four bytes.  A comment that is shorter, or whose
fourth byte is followed by the rest of a character, has none. -/
def directiveByOffsets? (comment : List Char) : Option Directive :=
  match before? 4 (trimStart comment) with
  | none => none
  | some word =>
    if word.map Char.toUpper = ['S', 'K', 'I', 'P'] then some .skip
    else if word.map Char.toUpper = ['T', 'O', 'D', 'O'] then some .todo
    else none

/-- The description and the directive of what follows the dash. -/
def fieldsByOffsets? (body : List Char) : Option (List Char × Option Directive) := do
  match ← commentOffset? body with
  | none => return (body, none)
  | some offset =>
    let description ← before? offset body
    let comment ← after? (offset + 1) body
    return (description, directiveByOffsets? comment)

/-! ## Lines -/

def digitsEnd (t : List Char) : Nat := (findOffset? (!·.isDigit) t).getD (Utf8.encode t).length

def pointByOffsets? (ok : Bool) (fields : List Char) (depth : Nat) : Option TestPoint := do
  let fields := trimStart fields
  let digits ← before? (digitsEnd fields) fields
  let rest ← after? (digitsEnd fields) fields
  let (description, directive) ← fieldsByOffsets? (dropDash (trimStart rest))
  return {
    ok
    number := number? digits
    description := String.ofList (unescapeHash (trim description))
    directive
    depth }

/-- The point that a line writes, if it writes one. -/
def TestPoint.readByOffsets? (line : List Char) (depth : Nat) : Option (Option TestPoint) :=
  match verdict? line with
  | none => some none
  | some (ok, fields) =>
    if fields.head?.all isBlank then (pointByOffsets? ok fields depth).map some else some none

/-- The count of a plan line, if it is one. -/
def planByOffsets? (line : List Char) : Option (Option UInt64) :=
  match line with
  | '1' :: '.' :: '.' :: rest => (before? (digitsEnd rest) rest).map number?
  | _ => some none

/-- The indentation of a raw line, the difference of two widths, and its text. -/
def Line.byOffsets? (raw : List Char) : Option Line :=
  let text := trimStart raw
  if (Utf8.encode text).length ≤ (Utf8.encode raw).length then
    some ⟨(Utf8.encode raw).length - (Utf8.encode text).length, trimEnd text⟩
  else none

/-! ## Streams -/

def Report.add (r : Report) : Item → Report
  | .point p => { r with points := r.points ++ [p] }
  | .plan n => { r with plan := some n }
  | .bailOut => { r with bailedOut := true }

/-- The report after a line that is no test point. -/
def remarkByOffsets? (r : Report) (line : Line) : Option Report :=
  if bailOutMark.isPrefixOf line.text then some (r.add .bailOut)
  else if line.depth = 0 then
    (planByOffsets? line.text).map fun plan => plan.elim r fun n => r.add (.plan n)
  else some r

/-- The reader's state and the report after a line outside of any block. -/
def outsideByOffsets? (point : Option Nat) (r : Report) (line : Line) : Option (Mode × Report) :=
  if line.text = ['-', '-', '-'] ∧ point.any (· < line.depth) then some (⟨some line.depth, none⟩, r)
  else do
    match ← TestPoint.readByOffsets? line.text line.depth with
    | some p => return (⟨none, some line.depth⟩, r.add (.point p))
    | none =>
      if line.text.isEmpty then return (⟨none, point⟩, r)
      else return ({}, ← remarkByOffsets? r line)

/-- The reader's state and the report after a line. -/
def stepByOffsets? (s : Mode × Report) (raw : List Char) : Option (Mode × Report) := do
  let line ← Line.byOffsets? raw
  match s.1.block with
  | none => outsideByOffsets? s.1.point s.2 line
  | some depth =>
    if line.text = ['.', '.', '.'] ∧ line.depth = depth then return (⟨none, s.1.point⟩, s.2)
    else if line.text.isEmpty || decide (depth ≤ line.depth) then return s
    else outsideByOffsets? s.1.point s.2 line

def parseByOffsets? (text : String) : Option Report :=
  ((lines text.toList).foldlM stepByOffsets? ({}, {})).map Prod.snd

end TapSuite.Tap
