import TapSuite.Text.Pad

/-!
# Dates

The Gregorian calendar, extended in both directions, with a year 0.

    Date.ofDays 0      = 1970-01-01
    Date.ofDays (-719528) = 0000-01-01

Years are counted from March, so that the leap day is a year's last day, in eras of 400 years or
146097 days.
-/

namespace TapSuite

/-- A day of the calendar. -/
structure Date where
  year : Int
  month : Nat
  day : Nat
  deriving DecidableEq

/-- Days from the first of March of the year 0 to the first of January 1970. -/
def Date.epoch : Int := 719468

/-- Days in 400 years. -/
def Date.eraDays : Int := 146097

/-- The year, counted from March, of a day of an era. -/
def Date.yearOfEra (day : Nat) : Nat :=
  (day - day / 1460 + day / 36524 - day / 146096) / 365

/-- The date that lies so many days after the first of January 1970. -/
def Date.ofDays (days : Int) : Date :=
  let n := days + epoch
  let day := (n % eraDays).toNat
  let year := yearOfEra day
  let dayOfYear := day - (365 * year + year / 4 - year / 100)
  let monthFromMarch := (5 * dayOfYear + 2) / 153
  let month := if monthFromMarch < 10 then monthFromMarch + 3 else monthFromMarch - 9
  { year := 400 * (n / eraDays) + year + (if month ≤ 2 then 1 else 0)
    month
    day := dayOfYear - (153 * monthFromMarch + 2) / 5 + 1 }

/-- The year in four digits; outside of these it carries a sign. -/
def Date.yearText (year : Int) : String :=
  (if year < 0 then "-" else if 9999 < year then "+" else "") ++ Text.zeroPad 4 year.natAbs

/-- The date as `year-month-day`. -/
def Date.text (d : Date) : String :=
  yearText d.year ++ "-" ++ Text.zeroPad 2 d.month ++ "-" ++ Text.zeroPad 2 d.day

end TapSuite
