import TapSuite.Decimal.Binary

/-!
# Shortest decimal text

The fewest decimal digits that read back as the same 53-bit value, written positionally with at
least one place after the point.

    shortest 1/10   = "0.1"
    shortest 10^21  = "1000000000000000000000.0"

The values that read back as `x` form an interval around it.  On the decimal grid with `n`
significant digits only the two neighbours of `x` need testing; the first grid with a neighbour in
the interval wins, and of two neighbours the nearer, a tie to the even digit.
-/

namespace TapSuite.Decimal

/-! ## Comparing ratios -/

/-- Whether one ratio is at most another, both with positive denominators. -/
def ratioLe (x y : Nat × Nat) : Bool := decide (x.1 * y.2 ≤ y.1 * x.2)

def ratioLt (x y : Nat × Nat) : Bool := decide (x.1 * y.2 < y.1 * x.2)

/-- An integer times a power of ten. -/
def tenfold (n : Nat) (k : Int) : Nat × Nat :=
  if 0 ≤ k then (n * Nat.pow 10 k.toNat, 1) else (n, Nat.pow 10 (-k).toNat)

/-! ## The interval of a value -/

/-- The ends of the interval of reals that round to a positive value. -/
def Binary.bounds (x : Binary) : (Nat × Nat) × (Nat × Nat) :=
  let low := if x.mantissa = Nat.pow 2 52 ∧ leastExponent < x.exponent then 4 * x.mantissa - 1
    else 4 * x.mantissa - 2
  (scale low 1 (x.exponent - 2), scale (4 * x.mantissa + 2) 1 (x.exponent - 2))

/-- Whether a ratio rounds to a value; the ends belong to the even mantissas. -/
def Binary.holds (x : Binary) (r : Nat × Nat) : Bool :=
  let (low, high) := x.bounds
  if x.mantissa % 2 = 0 then ratioLe low r && ratioLe r high else ratioLt low r && ratioLt r high

/-! ## The search -/

/-- The neighbour of `x` on the grid of multiples of `10^k` that reads back as `x`, if one does. -/
def Binary.onGrid? (x : Binary) (k : Int) : Option Nat :=
  let (n, d) := x.ratio
  let (tn, td) := tenfold 1 k
  let below := n * td / (d * tn)
  let nearest := roundDiv (n * td) (d * tn)
  let other := if nearest = below then below + 1 else below
  if x.holds (tenfold nearest k) then some nearest
  else if x.holds (tenfold other k) then some other
  else none

/-- The number of digits before the point of a ratio, zero or negative below one tenth. -/
def magnitude (x : Nat × Nat) : Int :=
  let (n, d) := x
  if d ≤ n then (toString (n / d)).length
  else 1 - (toString ((d - 1) / n)).length

/-- The digits `n` and the exponent `k` of the shortest decimal `n · 10^k` of a positive value, on
grids from `count` digits on. -/
def Binary.search (x : Binary) (count : Nat) : Nat → Nat × Int
  | 0 => (roundDiv x.ratio.1 x.ratio.2, 0)
  | fuel + 1 =>
    let k := magnitude x.ratio - count
    match x.onGrid? k with
    | some n => (n, k)
    | none => x.search (count + 1) fuel

/-! ## Text -/

/-- The decimal `n · 10^k` written positionally, at least one place after the point. -/
def positional (n : Nat) (k : Int) : String :=
  if 0 ≤ k then toString (n * Nat.pow 10 k.toNat) ++ ".0"
  else
    let places := (-k).toNat
    let whole := n / Nat.pow 10 places
    let digits := (toString (n % Nat.pow 10 places)).toList
    let padded := List.replicate (places - digits.length) '0' ++ digits
    let kept := (padded.reverse.dropWhile (· = '0')).reverse
    toString whole ++ "." ++ (if kept.isEmpty then "0" else String.ofList kept)

/-- The shortest decimal text of a value.  Seventeen digits always read back. -/
def Binary.shortest (x : Binary) : String :=
  if x.mantissa = 0 then "0.0"
  else
    let (n, k) := x.search 1 17
    positional n k

end TapSuite.Decimal
