/-!
# Arithmetic of scripts

The value of an expression of integers, variables, `+`, `-`, `*`, `/`, `%` and parentheses.  A
quotient goes toward zero; a division by zero has no value.
-/

namespace TapSuite.Sandbox.Arithmetic

/-- The text from its next character on that is no blank. -/
def skip (t : List Char) : List Char := t.dropWhile fun c => c = ' ' || c = '\t' || c = '\n'

def isNameChar (c : Char) : Bool := c.isAlphanum || c = '_'

def divide? (remainder : Bool) (a b : Int) : Option Int :=
  if b = 0 then none else some (if remainder then a.tmod b else a.tdiv b)

mutual

/-- A number, a variable, a negated operand or an expression in parentheses. -/
def operand (env : List Char → Int) : Nat → List Char → Option (Int × List Char)
  | 0, _ => none
  | fuel + 1, t =>
    match skip t with
    | '(' :: t =>
      match sum env fuel t with
      | none => none
      | some (n, t) =>
        match skip t with
        | ')' :: t => some (n, t)
        | _ => none
    | '-' :: t => (operand env fuel t).map fun (n, t) => (-n, t)
    | '+' :: t => operand env fuel t
    | '$' :: t => operand env fuel t
    | t =>
      let word := t.takeWhile isNameChar
      let rest := t.dropWhile isNameChar
      if word.isEmpty then none
      else if word.all Char.isDigit then
        some (word.foldl (fun n c => 10 * n + ((c.toNat - '0'.toNat : Nat) : Int)) 0, rest)
      else some (env word, rest)

/-- The factors that follow a product so far. -/
def factors (env : List Char → Int) : Nat → Int → List Char → Option (Int × List Char)
  | 0, _, _ => none
  | fuel + 1, n, t =>
    match skip t with
    | '*' :: t => do
      let (m, t) ← operand env fuel t
      factors env fuel (n * m) t
    | '/' :: t => do
      let (m, t) ← operand env fuel t
      factors env fuel (← divide? false n m) t
    | '%' :: t => do
      let (m, t) ← operand env fuel t
      factors env fuel (← divide? true n m) t
    | t => some (n, t)

/-- The terms that follow a sum so far. -/
def terms (env : List Char → Int) : Nat → Int → List Char → Option (Int × List Char)
  | 0, _, _ => none
  | fuel + 1, n, t =>
    match skip t with
    | '+' :: t => do
      let (m, t) ← operand env fuel t
      let (m, t) ← factors env fuel m t
      terms env fuel (n + m) t
    | '-' :: t => do
      let (m, t) ← operand env fuel t
      let (m, t) ← factors env fuel m t
      terms env fuel (n - m) t
    | t => some (n, t)

def sum (env : List Char → Int) : Nat → List Char → Option (Int × List Char)
  | 0, _ => none
  | fuel + 1, t => do
    let (n, t) ← operand env fuel t
    let (n, t) ← factors env fuel n t
    terms env fuel n t

end

def value? (env : List Char → Int) (t : List Char) : Option Int :=
  match sum env (4 * t.length + 4) t with
  | some (n, rest) => if (skip rest).isEmpty then some n else none
  | none => none

end TapSuite.Sandbox.Arithmetic
