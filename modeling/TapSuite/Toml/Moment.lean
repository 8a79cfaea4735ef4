/-!
# TOML dates and times

A date, a time of day, or a date with a time of day and perhaps an offset.  A month has as many days
as it has; seconds may be missing, and 60 is a second for the sake of leap seconds.
-/

namespace TapSuite.Toml

/-! ## Fields -/

/-- The number that the first `n` characters write, all of them digits, and the rest. -/
def digits? (n : Nat) (t : List Char) : Option (Nat × List Char) :=
  let front := t.take n
  if front.length = n ∧ front.all Char.isDigit then
    some (front.foldl (fun v c => 10 * v + (c.toNat - '0'.toNat)) 0, t.drop n)
  else none

def after? (c : Char) : List Char → Option (List Char)
  | d :: t => if c = d then some t else none
  | [] => none

def isLeap (year : Nat) : Bool := year % 4 = 0 && (year % 100 ≠ 0 || year % 400 = 0)

def monthDays (year month : Nat) : Nat :=
  if month = 2 then (if isLeap year then 29 else 28)
  else if month = 4 ∨ month = 6 ∨ month = 9 ∨ month = 11 then 30
  else 31

/-! ## Parts -/

/-- What follows a date. -/
def date? (t : List Char) : Option (List Char) := do
  let (year, t) ← digits? 4 t
  let (month, t) ← digits? 2 (← after? '-' t)
  let (day, t) ← digits? 2 (← after? '-' t)
  if 1 ≤ month ∧ month ≤ 12 ∧ 1 ≤ day ∧ day ≤ monthDays year month then some t else none

/-- What follows the seconds of a time, if it has seconds. -/
def seconds? (t : List Char) : Option (List Char) :=
  match after? ':' t with
  | none => some t
  | some t => do
    let (second, t) ← digits? 2 t
    if 60 < second then none
    else
      match after? '.' t with
      | none => some t
      | some t => if (t.head?.any Char.isDigit) then some (t.dropWhile Char.isDigit) else none

def hourMinute? (t : List Char) : Option (List Char) := do
  let (hour, t) ← digits? 2 t
  let (minute, t) ← digits? 2 (← after? ':' t)
  if 23 < hour ∨ 59 < minute then none else some t

def time? (t : List Char) : Option (List Char) := (hourMinute? t).bind seconds?

/-- Whether an offset, and nothing else, stands here. -/
def isOffset (t : List Char) : Bool :=
  match t with
  | [] => true
  | ['Z'] => true
  | ['z'] => true
  | sign :: t => (sign = '+' || sign = '-') && (hourMinute? t).any List.isEmpty

/-! ## Moments -/

/-- Whether a word is a date, a time of day, or both with an offset at most. -/
def isMoment (word : List Char) : Bool :=
  match date? word with
  | some [] => true
  | some (c :: t) =>
    (c = 'T' || c = 't' || c = ' ') && ((time? t).any isOffset)
  | none => (time? word).any List.isEmpty

end TapSuite.Toml
