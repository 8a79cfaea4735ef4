import TapSuite.Text.Utf8

/-!
# Text without control sequences

What is written to a file or a pipe leaves out the sequences that steer a terminal, and with them
every control character that is no blank.

    withoutControls "ESC[31mno ESC[0m" = "no "

A sequence begins with ESC.  After `ESC [` it goes on to the first letter or the like; after
`ESC ]` to the character BEL; after `ESC P`, `ESC X`, `ESC ^` and `ESC _` to the byte 9C, the end
mark of a terminal's texts; and after any other character it is over, or one character later if
that one was a space or a mark up to `/`.  Another ESC, CAN or SUB break a sequence off, and so
does a blank control character, which is kept.
-/

namespace TapSuite

/-! ## Characters -/

def codeWithin (low high : Nat) (c : Char) : Bool := low ≤ c.toNat && c.toNat ≤ high

/-- A control character that is kept: tab, line feed, form feed, carriage return. -/
def isBlankControl (c : Char) : Bool := c = '\t' || c = '\n' || c = '\x0c' || c = '\r'

/-- Whether a character is kept outside of sequences. -/
def isKept (c : Char) : Bool := (0x20 ≤ c.toNat && c.toNat ≠ 0x7F) || isBlankControl c

/-- Whether the end mark of a terminal's texts is among the bytes of a character. -/
def holdsEndMark (c : Char) : Bool := (Text.Utf8.encode [c]).contains 0x9C

/-! ## Sequences -/

/-- Where a reader of a text with sequences stands. -/
inductive ControlPlace where
  | text
  /-- after ESC -/
  | escape
  /-- after ESC and marks -/
  | escapeMarks
  /-- after `ESC [` -/
  | sequence
  /-- after `ESC ]` -/
  | command
  /-- after `ESC P` -/
  | device
  /-- among the numbers after `ESC P` -/
  | deviceNumbers
  /-- among the marks after `ESC P` -/
  | deviceMarks
  /-- in a text for the terminal -/
  | message
  deriving DecidableEq

/-- Whether a blank control character ends a sequence here. -/
def ControlPlace.isBroken : ControlPlace → Bool
  | .escape => true
  | .escapeMarks => true
  | .sequence => true
  | _ => false

/-- Where a reader stands after a character that neither breaks a sequence off nor begins one. -/
def ControlPlace.inside (p : ControlPlace) (c : Char) : ControlPlace :=
  match p with
  | .text => .text
  | .escape =>
    if c = '[' then .sequence
    else if c = ']' then .command
    else if c = 'P' then .device
    else if c = 'X' ∨ c = '^' ∨ c = '_' then .message
    else if codeWithin 0x20 0x2F c then .escapeMarks
    else if codeWithin 0x30 0x7E c then .text
    else .escape
  | .escapeMarks => if codeWithin 0x30 0x7E c then .text else .escapeMarks
  | .sequence => if codeWithin 0x40 0x7E c then .text else .sequence
  | .command => if c = '\x07' then .text else .command
  | .device =>
    if codeWithin 0x20 0x2F c then .deviceMarks
    else if codeWithin 0x30 0x3F c then .deviceNumbers
    else if codeWithin 0x40 0x7E c then .message
    else .device
  | .deviceNumbers =>
    if codeWithin 0x20 0x2F c then .deviceMarks
    else if codeWithin 0x3C 0x7E c then .message
    else .deviceNumbers
  | .deviceMarks => if codeWithin 0x30 0x7E c then .message else .deviceMarks
  | .message => if holdsEndMark c then .text else .message

/-- Where a reader stands after a character. -/
def ControlPlace.next (p : ControlPlace) (c : Char) : ControlPlace :=
  if c = '\x1b' then .escape
  else if c = '\x18' ∨ c = '\x1a' then .text
  else if p.isBroken ∧ isBlankControl c then .text
  else p.inside c

/-- Whether a character is kept where a reader stands. -/
def ControlPlace.keeps (p : ControlPlace) (c : Char) : Bool :=
  if p = .text then isKept c else p.isBroken && isBlankControl c

/-- What is kept of a text, from a place on. -/
def keptFrom (p : ControlPlace) : List Char → List Char
  | [] => []
  | c :: t => if p.keeps c then c :: keptFrom (p.next c) t else keptFrom (p.next c) t

def withoutControls (t : List Char) : List Char := keptFrom .text t

end TapSuite
