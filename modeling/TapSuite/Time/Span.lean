import TapSuite.Decimal.Binary

/-!
# Spans of time

A span is a count of seconds and a fraction of a second in billionths.

    Span.text ⟨0, 125000000⟩         = "0.12"
    Span.milliseconds ⟨3, 999999999⟩ = 3999

The text has two decimal places.  They are those of the 53-bit sum of seconds and fraction, which
for long spans is less exact than the span.
-/

namespace TapSuite

/-- A fraction of a second in billionths. -/
abbrev Nanos := Fin 1000000000

def Nanos.zero : Nanos := ⟨0, by decide⟩

/-- A length of time. -/
structure Span where
  seconds : UInt64 := 0
  nanos : Nanos := .zero
  deriving DecidableEq

/-- The span in whole milliseconds, the rest dropped. -/
def Span.milliseconds (d : Span) : Nat := 1000 * d.seconds.toNat + d.nanos.val / 1000000

def Span.toBinary (d : Span) : Decimal.Binary :=
  (Decimal.Binary.ofRatio d.seconds.toNat 1).add (.ofRatio d.nanos.val 1000000000)

/-- The span in seconds, with two decimal places. -/
def Span.text (d : Span) : String := d.toBinary.fixed

end TapSuite
