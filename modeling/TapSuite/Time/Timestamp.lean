import TapSuite.Time.Date
import TapSuite.Time.Span

/-!
# Timestamps

A moment, counted from the start of 1970, and the distance from universal time at which it is
shown.

    1970-01-01 05:30:00               plain
    1970-01-01T05:30:00.001+05:30     Internet date and time

The fraction of a second has no, three, six or nine digits, as few as hold it.  A distance is
rounded to whole minutes, half a minute away from zero; `Z` stands for a distance of zero only.
-/

namespace TapSuite

/-- A moment and the distance in seconds, eastward, at which it is shown. -/
structure Timestamp where
  seconds : Int := 0
  nanos : Nanos := .zero
  offset : Int := 0
  deriving DecidableEq

def daySeconds : Int := 86400

/-- The second on the clock that shows the moment. -/
def Timestamp.shown (t : Timestamp) : Int := t.seconds + t.offset

/-- The date on the calendar that shows the moment. -/
def Timestamp.date (t : Timestamp) : Date := .ofDays (t.shown / daySeconds)

def hourMinute (minutes : Nat) : String :=
  Text.zeroPad 2 (minutes / 60) ++ ":" ++ Text.zeroPad 2 (minutes % 60)

/-- The time of day, in whole seconds. -/
def Timestamp.clock (t : Timestamp) : String :=
  let second := (t.shown % daySeconds).toNat
  hourMinute (second / 60) ++ ":" ++ Text.zeroPad 2 (second % 60)

/-- The date and the time of day. -/
def Timestamp.text (t : Timestamp) : String := t.date.text ++ " " ++ t.clock

/-- A fraction of a second with its point. -/
def fraction (nanos : Nat) : String :=
  if nanos = 0 then ""
  else if nanos % 1000000 = 0 then "." ++ Text.zeroPad 3 (nanos / 1000000)
  else if nanos % 1000 = 0 then "." ++ Text.zeroPad 6 (nanos / 1000)
  else "." ++ Text.zeroPad 9 nanos

/-- A distance from universal time. -/
def zone (offset : Int) : String :=
  if offset = 0 then "Z"
  else (if offset < 0 then "-" else "+") ++ hourMinute ((offset.natAbs + 30) / 60)

/-- The timestamp as an Internet date and time. -/
def Timestamp.internet (t : Timestamp) : String :=
  t.date.text ++ "T" ++ t.clock ++ fraction t.nanos.val ++ zone t.offset

end TapSuite
