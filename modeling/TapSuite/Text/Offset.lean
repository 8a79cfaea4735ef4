import TapSuite.Text.Utf8

/-!
# Byte offsets

Places in a text, counted in the bytes of its UTF-8 encoding.  A text can be cut where no character
is cut: at its end, or at a byte that does not go on with a character.

    cutAt? (width a) (a ++ b)  = some (a, b)
    findOffset? p t            = the width of the text before the first character with `p`
-/

namespace TapSuite.Text

/-! ## Boundaries -/

/-- Whether an offset into the bytes of a text is its end or the place of a byte that begins a
character. -/
def isBoundary (bs : List UInt8) (offset : Nat) : Bool :=
  offset == bs.length || bs[offset]?.any fun b => b < 0x80 || 0xC0 ≤ b

/-! ## Cuts -/

/-- A text cut at an offset; none if it is beyond the end or inside a character. -/
def cutAt? (offset : Nat) : List Char → Option (List Char × List Char)
  | [] => if offset = 0 then some ([], []) else none
  | c :: t =>
    if offset = 0 then some ([], c :: t)
    else if c.utf8Size ≤ offset then (cutAt? (offset - c.utf8Size) t).map fun (a, b) => (c :: a, b)
    else none

def before? (offset : Nat) (t : List Char) : Option (List Char) := (cutAt? offset t).map Prod.fst

def after? (offset : Nat) (t : List Char) : Option (List Char) := (cutAt? offset t).map Prod.snd

/-! ## Searches -/

/-- The offset of the first character with a property. -/
def findOffset? (p : Char → Bool) : List Char → Option Nat
  | [] => none
  | c :: t => if p c then some 0 else (findOffset? p t).map (· + c.utf8Size)

end TapSuite.Text
