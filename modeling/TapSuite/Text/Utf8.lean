/-!
# UTF-8

Bytes are read one by one.  The state between two bytes is a sequence that has begun but is not
complete, if there is one; a byte that does not fit ends it and is read anew.  So one mark stands
for each longest part that begins a sequence and cannot be completed.

    decode none (encode t) = t.map some
    lossy bs               = decode none bs with U+FFFD for each mark
-/

namespace TapSuite.Text.Utf8

/-! ## Sequences -/

/-- A sequence that has begun: the bits so far, the range of the next byte, and the number of
bytes missing after that. -/
structure Pending where
  bits : Nat
  low : UInt8
  high : UInt8
  missing : Nat
  deriving DecidableEq

/-- The state after a lead byte. -/
def begin? (b : UInt8) : Option Pending :=
  if b < 0xC2 then none
  else if b < 0xE0 then some ⟨b.toNat - 0xC0, 0x80, 0xBF, 0⟩
  else if b = 0xE0 then some ⟨0, 0xA0, 0xBF, 1⟩
  else if b = 0xED then some ⟨0x0D, 0x80, 0x9F, 1⟩
  else if b < 0xF0 then some ⟨b.toNat - 0xE0, 0x80, 0xBF, 1⟩
  else if b = 0xF0 then some ⟨0, 0x90, 0xBF, 2⟩
  else if b < 0xF4 then some ⟨b.toNat - 0xF0, 0x80, 0xBF, 2⟩
  else if b = 0xF4 then some ⟨4, 0x80, 0x8F, 2⟩
  else none

/-- What is read from a byte outside of a sequence: a character, a mark, or nothing yet. -/
def fresh (b : UInt8) : List (Option Char) × Option Pending :=
  if b < 0x80 then ([some (Char.ofNat b.toNat)], none)
  else
    match begin? b with
    | some p => ([], some p)
    | none => ([none], none)

/-- What is read from a byte in any state. -/
def step (p : Option Pending) (b : UInt8) : List (Option Char) × Option Pending :=
  match p with
  | none => fresh b
  | some p =>
    if p.low ≤ b ∧ b ≤ p.high then
      let bits := 64 * p.bits + b.toNat % 64
      match p.missing with
      | 0 => ([some (Char.ofNat bits)], none)
      | n + 1 => ([], some ⟨bits, 0x80, 0xBF, n⟩)
    else (none :: (fresh b).1, (fresh b).2)

/-! ## Texts -/

/-- The characters that bytes write, with `none` for what writes no character. -/
def decode (p : Option Pending) : List UInt8 → List (Option Char)
  | [] => if p.isSome then [none] else []
  | b :: bs => (step p b).1 ++ decode (step p b).2 bs

/-- The characters that bytes write, with U+FFFD for what writes none. -/
def lossy (bs : List UInt8) : List Char := (decode none bs).map (·.getD '\ufffd')

/-- The text that bytes write, if they write one. -/
def text? (bs : List UInt8) : Option (List Char) := (decode none bs).mapM id

def encode (t : List Char) : List UInt8 := t.flatMap String.utf8EncodeChar

end TapSuite.Text.Utf8
