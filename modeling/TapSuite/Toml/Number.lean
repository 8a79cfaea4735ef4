import TapSuite.Toml.Value
import TapSuite.Toml.Text
import TapSuite.Toml.Moment

/-!
# Bare TOML values

Truth values, numbers and moments, which are written without quotes.  What a word starts with says
what it is; its form is checked then.

    bareValue? ['0', 'x', 'f']      = some (integer 15)
    bareValue? ['1', '_', '0']      = some (integer 10)
    bareValue? ['0', '1']           = none
    bareValue? ['0', 'x']           = some valueless

A low line may stand between two digits.  A digit is a hexadecimal one here, also in an integer of
another base, so that an integer may have the form of one and still have no value.
-/

namespace TapSuite.Toml

/-! ## Low lines -/

/-- Whether a part of a number between low lines is well formed: not empty, with a digit where a
low line stands.  The last one has none after it.  A single character may be a sign. -/
def partsFit (ok : Char → Bool) (first : Bool) : List (List Char) → Bool
  | [] => true
  | [p] => first || p.head?.any ok
  | p :: rest =>
    (first && !p.isEmpty || p.head?.any ok) && (p.length ≤ 1 || p.getLast?.any ok) &&
      partsFit ok false rest

/-- A number without its low lines, if each of them stands between two digits. -/
def dropLowLines? (ok : Char → Bool) (t : List Char) : Option (List Char) :=
  if partsFit ok true (t.splitOn '_') then some (t.filter (· ≠ '_')) else none

/-! ## Integers -/

/-- Whether a character is a digit of any base. -/
def isHexDigit (c : Char) : Bool := (hexDigit? c).isSome

def ofDigits (base : Nat) (digits : List Char) : Nat :=
  digits.foldl (fun n c => base * n + (hexDigit? c).getD 0) 0

/-- The number of a run of digits; none if it is empty or has a character that is no digit. -/
def runOf? (base : Nat) (digits : List Char) : Option Nat :=
  if digits ≠ [] ∧ digits.all (fun c => (hexDigit? c).any (· < base)) then
    some (ofDigits base digits)
  else none

/-- A word without its sign, and whether the sign was a minus. -/
def unsigned : List Char → Bool × List Char
  | '-' :: t => (true, t)
  | '+' :: t => (false, t)
  | t => (false, t)

/-- The integer in a base with an own mark, after the mark. -/
def marked? (base : Nat) (t : List Char) : Option Value :=
  if t.all (fun c => c = '_' || (hexDigit? c).any (· < base)) then
    (dropLowLines? isHexDigit t).map fun digits =>
      match runOf? base digits with
      | some n => .integer n
      | none => .valueless
  else none

def integer? (word : List Char) : Option Value :=
  (dropLowLines? isHexDigit word).map fun cleaned =>
    let (negative, digits) := unsigned cleaned
    match runOf? 10 digits with
    | some n => .integer (if negative then -(n : Int) else n)
    | none => .valueless

/-! ## Real numbers -/

/-- A run of decimal digits and low lines, and what follows it. -/
def decimalRun (t : List Char) : List Char × List Char :=
  (t.takeWhile fun c => c.isDigit || c = '_', t.dropWhile fun c => c.isDigit || c = '_')

/-- The digits of a run; none if it has none. -/
def runDigits? (run : List Char) : Option (List Char) :=
  let digits := run.filter (· ≠ '_')
  if digits.isEmpty then none else some digits

/-- The exponent that a word ends with, if it has one; nothing else may stand here. -/
def exponent? (t : List Char) : Option Int :=
  match t with
  | [] => some 0
  | c :: t =>
    let (negative, t) := unsigned t
    let (run, rest) := decimalRun t
    if (c = 'e' ∨ c = 'E') ∧ rest = [] then
      (runDigits? run).map fun digits =>
        if negative then -(ofDigits 10 digits : Int) else ofDigits 10 digits
    else none

/-- The fraction that follows the whole digits, which may be none at all, and the exponent. -/
def fraction? (t : List Char) : Option (List Char × Int) :=
  match t with
  | '.' :: t => do
    let (run, rest) := decimalRun t
    let digits ← runDigits? run
    let e ← exponent? rest
    some (digits, e)
  | t => (exponent? t).map fun e => ([], e)

/-- The real number that a word writes, given its sign and what follows the sign. -/
def real? (negative : Bool) (word t : List Char) : Option Value := do
  let (run, rest) := decimalRun t
  let whole ← runDigits? run
  let (fraction, e) ← fraction? rest
  let _ ← dropLowLines? Char.isDigit word
  if whole.length ≤ 1 ∨ run.head? ≠ some '0' then
    some (.real (.decimal negative (ofDigits 10 (whole ++ fraction)) (e - fraction.length)))
  else none

/-! ## Any word -/

/-- The value of a word that starts like a number or a moment. -/
def numberOrMoment? (word : List Char) : Option Value :=
  let (negative, t) := unsigned word
  let leadingZero := t.head? = some '0' ∧ 1 < t.length
  match t.dropWhile Char.isDigit with
  | [] => if t = [] ∨ leadingZero then none else integer? word
  | c :: rest =>
    if c = '-' ∨ c = ':' then
      if isMoment word then some (.moment (String.ofList word)) else none
    else if (c :: rest).contains ' ' then none
    else if (c :: rest).any (fun d => d = '.' || d = 'e' || d = 'E') then real? negative word t
    else if c = '_' ∧ ¬ leadingZero then integer? word
    else none

def bareValue? (word : List Char) : Option Value :=
  let (negative, t) := unsigned word
  if word = ['t', 'r', 'u', 'e'] then some (.boolean true)
  else if word = ['f', 'a', 'l', 's', 'e'] then some (.boolean false)
  else if t = ['i', 'n', 'f'] then some (.real (.infinite negative))
  else if t = ['n', 'a', 'n'] then some (.real .nan)
  else
    match word with
    | '0' :: 'x' :: t => marked? 16 t
    | '0' :: 'o' :: t => marked? 8 t
    | '0' :: 'b' :: t => marked? 2 t
    | _ => numberOrMoment? word

end TapSuite.Toml
