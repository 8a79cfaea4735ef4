/-!
# Binary numbers

The non-negative values of the binary interchange format with 53 significant bits: `m · 2^e`.
A ratio is rounded to the nearest of them, a tie to the even mantissa; the exponent range is
unbounded upwards, so overflow is a question to the value and not an outcome.

    roundDiv n d = the integer nearest to n / d, ties to even
    ofRatio n d  = the 53-bit value nearest to n / d
-/

namespace TapSuite.Decimal

/-! ## Rounding -/

/-- The integer nearest to a quotient; a tie goes to the even one. -/
def roundDiv (num den : Nat) : Nat :=
  let q := num / den
  let r := num % den
  if den < 2 * r ∨ (2 * r = den ∧ q % 2 = 1) then q + 1 else q

/-- The value `mantissa · 2^exponent`. -/
structure Binary where
  mantissa : Nat
  exponent : Int
  deriving DecidableEq

def scale (num den : Nat) (e : Int) : Nat × Nat :=
  if 0 ≤ e then (num * Nat.pow 2 e.toNat, den) else (num, den * Nat.pow 2 (-e).toNat)

/-- The least exponent of a value in the format. -/
def leastExponent : Int := -1074

/-- The exponent at which a positive ratio has 53 significant bits, or the least one. -/
def exponentFor (num den : Nat) : Int :=
  let e : Int := (num.log2 : Int) - den.log2 - 52
  let (n, d) := scale num den (-e)
  max leastExponent (if n / d < Nat.pow 2 52 then e - 1 else e)

/-- The 53-bit value nearest to a ratio. -/
def Binary.ofRatio (num den : Nat) : Binary :=
  if num = 0 then ⟨0, leastExponent⟩
  else
    let e := exponentFor num den
    let (n, d) := scale num den (-e)
    let m := roundDiv n d
    if m = Nat.pow 2 53 then ⟨Nat.pow 2 52, e + 1⟩ else ⟨m, e⟩

def Binary.ratio (x : Binary) : Nat × Nat := scale x.mantissa 1 x.exponent

/-- The rounded sum of two values. -/
def Binary.add (x y : Binary) : Binary :=
  let (a, b) := x.ratio
  let (c, d) := y.ratio
  .ofRatio (a * d + c * b) (b * d)

/-! ## Two places -/

/-- An integer with a point before its last two digits. -/
def hundredths (n : Nat) : String :=
  let frac := toString (n % 100)
  toString (n / 100) ++ "." ++ (if frac.length < 2 then "0" ++ frac else frac)

/-- A value with two decimal places, rounded from its exact binary value, a tie to the even
digit. -/
def Binary.fixed (x : Binary) : String :=
  let (n, d) := x.ratio
  hundredths (roundDiv (100 * n) d)

end TapSuite.Decimal
