import TapSuite.Decimal.Shortest

/-!
# TOML values

A document is a table.  Integers and real numbers are kept as written, without a range: which of
them fit a setting is for the reader of the setting to say.
-/

namespace TapSuite.Toml

open Decimal

/-- A real number as written: `± digits · 10^exponent`, or one of the special values. -/
inductive Real where
  | nan
  | infinite (negative : Bool)
  | decimal (negative : Bool) (digits : Nat) (exponent : Int)
  deriving DecidableEq

/-- The order of magnitude beyond which a decimal is infinite, or zero, in 53 bits. -/
def magnitudeLimit : Int := 400

/-- The 53-bit magnitude of a decimal; none if it is too large for the format. -/
def magnitude? (digits : Nat) (exponent : Int) : Option Binary :=
  let size := exponent + (toString digits).length
  if digits = 0 ∨ size < -magnitudeLimit then some ⟨0, leastExponent⟩
  else if magnitudeLimit < size then none
  else
    let (n, d) := tenfold digits exponent
    let x := Binary.ofRatio n d
    if 971 < x.exponent then none else some x

/-- The text of a real number; none if it is too large for 53 bits. -/
def Real.text? : Real → Option String
  | .nan => some "NaN"
  | .infinite negative => some (if negative then "-inf" else "inf")
  | .decimal negative digits exponent =>
    (magnitude? digits exponent).map fun x => (if negative then "-" else "") ++ x.shortest

/-- A TOML value.  Tables keep their entries in the order of definition; no key occurs twice. -/
inductive Value where
  | text (s : String)
  | integer (n : Int)
  /-- What has the form of an integer and is none, such as a base without digits. -/
  | valueless
  | real (x : Real)
  | boolean (b : Bool)
  | moment (s : String)
  | list (items : List Value)
  | table (entries : List (String × Value))

/-- A table's entries. -/
abbrev Table := List (String × Value)

/-- Why a text is no document. -/
inductive Flaw where
  | malformed
  /-- A key has too many parts. -/
  | longKey
  deriving DecidableEq

end TapSuite.Toml
