import TapSuite.Json.Value

/-!
# Reading JSON

A reader of the whole grammar, but for numbers with a fraction or an exponent, which no value here
can hold.

    parse? (compact v) = some v
    parse? (pretty v)  = some v

Blanks may stand around every token.  A text is read as UTF-16 units first, as its escapes may write
the halves of a surrogate pair; half a pair is refused.
-/

namespace TapSuite.Json

/-! ## Texts -/

/-- Whether a number is the first half of a surrogate pair. -/
def isHighHalf (n : Nat) : Bool := 0xD800 ≤ n && n < 0xDC00

/-- Whether a number is the second half of a surrogate pair. -/
def isLowHalf (n : Nat) : Bool := 0xDC00 ≤ n && n < 0xE000

/-- The character of a surrogate pair. -/
def ofHalves (high low : Nat) : Char := .ofNat (0x10000 + 0x400 * (high - 0xD800) + (low - 0xDC00))

/-- The text that code points and pairs of halves write. -/
def ofUnits? : List Nat → Option (List Char)
  | [] => some []
  | [n] => if isHighHalf n || isLowHalf n then none else some [.ofNat n]
  | n :: m :: rest =>
    if isHighHalf n then
      if isLowHalf m then (ofUnits? rest).map (ofHalves n m :: ·) else none
    else if isLowHalf n then none
    else (ofUnits? (m :: rest)).map (.ofNat n :: ·)

def hexDigit? (c : Char) : Option Nat :=
  if c.isDigit then some (c.toNat - '0'.toNat)
  else if 'a' ≤ c ∧ c ≤ 'f' then some (c.toNat - 'a'.toNat + 10)
  else if 'A' ≤ c ∧ c ≤ 'F' then some (c.toNat - 'A'.toNat + 10)
  else none

def hexUnit? (a b c d : Char) : Option Nat :=
  match hexDigit? a, hexDigit? b, hexDigit? c, hexDigit? d with
  | some a, some b, some c, some d => some (16 * (16 * (16 * a + b) + c) + d)
  | _, _, _, _ => none

/-- The character that a letter after a backslash stands for. -/
def shortMeaning? (letter : Char) : Option Char :=
  if letter = '"' ∨ letter = '\\' ∨ letter = '/' then some letter
  else if letter = 'b' then some '\x08'
  else if letter = 't' then some '\t'
  else if letter = 'n' then some '\n'
  else if letter = 'f' then some '\x0c'
  else if letter = 'r' then some '\r'
  else none

/-- The units of a text after its opening quote, and what follows the closing one. -/
def readUnits? : List Char → Option (List Nat × List Char)
  | [] => none
  | '"' :: rest => some ([], rest)
  | '\\' :: 'u' :: a :: b :: c :: d :: rest =>
    match hexUnit? a b c d with
    | none => none
    | some n => (readUnits? rest).map fun (units, rest) => (n :: units, rest)
  | '\\' :: letter :: rest =>
    match shortMeaning? letter with
    | none => none
    | some c => (readUnits? rest).map fun (units, rest) => (c.toNat :: units, rest)
  | c :: rest =>
    if c = '\\' ∨ c.toNat < 0x20 then none
    else (readUnits? rest).map fun (units, rest) => (c.toNat :: units, rest)

/-- The text after an opening quote, and what follows the closing one. -/
def readText? (t : List Char) : Option (String × List Char) :=
  match readUnits? t with
  | none => none
  | some (units, rest) => (ofUnits? units).map fun s => (String.ofList s, rest)

/-! ## Numbers -/

def ofDigits (digits : List Char) : Nat :=
  digits.foldl (fun n c => 10 * n + (c.toNat - '0'.toNat)) 0

/-- Whether digits may write a number: there are some, and none of them is a needless zero. -/
def isPlainNumber (digits : List Char) : Bool :=
  !digits.isEmpty && (digits.head? ≠ some '0' || digits.length = 1)

/-- Whether a text goes on with a fraction or an exponent. -/
def continuesNumber (t : List Char) : Bool :=
  t.head? = some '.' || t.head? = some 'e' || t.head? = some 'E'

/-- The number that a text starts with, and what follows it. -/
def readNatural? (t : List Char) : Option (Nat × List Char) :=
  let digits := t.takeWhile Char.isDigit
  let rest := t.dropWhile Char.isDigit
  if isPlainNumber digits && !continuesNumber rest then some (ofDigits digits, rest) else none

/-- The number, with its sign, that a text starts with, and what follows it. -/
def readNumber? : List Char → Option (Int × List Char)
  | '-' :: t => (readNatural? t).map fun (n, rest) => (-(n : Int), rest)
  | t => (readNatural? t).map fun (n, rest) => ((n : Int), rest)

/-! ## Values -/

/-- Whether a character may stand between tokens. -/
def isSpace (c : Char) : Bool := c = ' ' || c = '\t' || c = '\n' || c = '\r'

/-- The text from its next token on. -/
def skip (t : List Char) : List Char := t.dropWhile isSpace

mutual

/-- The value that a text starts with, and what follows it. -/
def readValue? : Nat → List Char → Option (Value × List Char)
  | 0, _ => none
  | fuel + 1, t =>
    match skip t with
    | 'n' :: 'u' :: 'l' :: 'l' :: rest => some (.null, rest)
    | 't' :: 'r' :: 'u' :: 'e' :: rest => some (.boolean true, rest)
    | 'f' :: 'a' :: 'l' :: 's' :: 'e' :: rest => some (.boolean false, rest)
    | '"' :: rest => (readText? rest).map fun (s, rest) => (.text s, rest)
    | '[' :: rest =>
      match skip rest with
      | ']' :: rest => some (.array [], rest)
      | rest => (readItems? fuel rest).map fun (vs, rest) => (.array vs, rest)
    | '\x7b' :: rest =>
      match skip rest with
      | '\x7d' :: rest => some (.object [], rest)
      | rest => (readMembers? fuel rest).map fun (ms, rest) => (.object ms, rest)
    | rest => (readNumber? rest).map fun (n, rest) => (.number n, rest)

/-- One item or more, and what follows the bracket after them. -/
def readItems? : Nat → List Char → Option (List Value × List Char)
  | 0, _ => none
  | fuel + 1, t =>
    match readValue? fuel t with
    | none => none
    | some (v, rest) =>
      match skip rest with
      | ',' :: rest => (readItems? fuel rest).map fun (vs, rest) => (v :: vs, rest)
      | ']' :: rest => some ([v], rest)
      | _ => none

/-- One member or more, and what follows the brace after them. -/
def readMembers? : Nat → List Char → Option (List (String × Value) × List Char)
  | 0, _ => none
  | fuel + 1, t =>
    match readMember? fuel t with
    | none => none
    | some (m, rest) =>
      match skip rest with
      | ',' :: rest => (readMembers? fuel rest).map fun (ms, rest) => (m :: ms, rest)
      | '\x7d' :: rest => some ([m], rest)
      | _ => none

/-- A member, and what follows it. -/
def readMember? : Nat → List Char → Option ((String × Value) × List Char)
  | 0, _ => none
  | fuel + 1, t =>
    match skip t with
    | '"' :: rest =>
      match readText? rest with
      | none => none
      | some (name, rest) =>
        match skip rest with
        | ':' :: rest => (readValue? fuel rest).map fun (v, rest) => ((name, v), rest)
        | _ => none
    | _ => none

end

/-- The value that a text writes.  Every three steps of the reader take a character at least. -/
def parse? (text : String) : Option Value :=
  let t := text.toList
  match readValue? (3 * t.length + 3) t with
  | none => none
  | some (v, rest) => if (skip rest).isEmpty then some v else none

end TapSuite.Json
