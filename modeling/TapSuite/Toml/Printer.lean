/-!
# Writing TOML

A text is written in the plainest of the four kinds of quotes that shows it without escapes; where
every kind needs one, between basic quotes, on several lines if the text has a line feed.

    writeText "a"          = "a" between basic quotes
    writeText "say \"a\""  = the same text between literal quotes
-/

namespace TapSuite.Toml

/-! ## What a text needs -/

/-- A control character that no quotes show: all but the tab and the line feed. -/
def isControl (c : Char) : Bool :=
  (c.toNat < 0x20 || c.toNat = 0x7F) && c ≠ '\t' && c ≠ '\n'

/-- The length of the longest run of a character, given the length of the run before the text. -/
def longestRun (x : Char) (run : Nat) : List Char → Nat
  | [] => run
  | c :: t => if c = x then longestRun x (run + 1) t else max run (longestRun x 0 t)

/-! ## Kinds of quotes -/

/-- The four kinds of quotes. -/
inductive Quotes where
  | basic
  | literal
  | basicLines
  | literalLines
  deriving DecidableEq

/-- The kind of quotes that a text is written in. -/
def Quotes.for (t : List Char) : Quotes :=
  let control := t.any isControl
  let backslash := t.contains '\\'
  let newline := t.contains '\n'
  let single := longestRun '\'' 0 t
  let double := longestRun '"' 0 t
  if control = false ∧ backslash = false ∧ double = 0 ∧ newline = false then .basic
  else if control = false ∧ single = 0 ∧ newline = false then .literal
  else if control = false ∧ backslash = false ∧ double ≤ 2 then .basicLines
  else if control = false ∧ single ≤ 2 then .literalLines
  else if newline then .basicLines
  else .basic

def Quotes.mark : Quotes → List Char
  | .basic => ['"']
  | .literal => ['\'']
  | .basicLines => ['"', '"', '"']
  | .literalLines => ['\'', '\'', '\'']

/-- A hexadecimal digit, in upper case. -/
def upperHex (n : Nat) : Char := (Nat.digitChar n).toUpper

/-- A control character by its code point, in four digits. -/
def codePoint (c : Char) : List Char :=
  let n := c.toNat
  ['\\', 'u', upperHex (n / 4096 % 16), upperHex (n / 256 % 16), upperHex (n / 16 % 16),
    upperHex (n % 16)]

/-- A character other than a double quote inside basic quotes.  `lines` says that line feeds stand
for themselves. -/
def basicChar (lines : Bool) (c : Char) : List Char :=
  if c = '\\' then ['\\', '\\']
  else if c = '\t' then ['\\', 't']
  else if c = '\n' then (if lines then ['\n'] else ['\\', 'n'])
  else if c = '\x08' then ['\\', 'b']
  else if c = '\x0c' then ['\\', 'f']
  else if c = '\r' then ['\\', 'r']
  else if isControl c then codePoint c
  else [c]

/-- A text inside basic quotes, after `run` double quotes that stand for themselves.  On several
lines up to two in a row do, else none. -/
def basicBody (lines : Bool) (run : Nat) : List Char → List Char
  | [] => []
  | c :: t =>
    if c = '"' then
      if run < (if lines then 2 else 0) then '"' :: basicBody lines (run + 1) t
      else '\\' :: '"' :: basicBody lines 0 t
    else basicChar lines c ++ basicBody lines 0 t

/-- A text as a TOML value.  On several lines it starts on a line of its own if it has a line
feed. -/
def writeText (s : String) : String :=
  let t := s.toList
  let quotes := Quotes.for t
  let start := if t.contains '\n' then ['\n'] else []
  let body :=
    match quotes with
    | .basic => basicBody false 0 t
    | .literal => t
    | .basicLines => start ++ basicBody true 0 t
    | .literalLines => start ++ t
  String.ofList (quotes.mark ++ body ++ quotes.mark)

/-! ## Lines -/

def textLine (key s : String) : String := key ++ " = " ++ writeText s ++ "\n"

def numberLine (key : String) (n : Nat) : String := key ++ " = " ++ toString n ++ "\n"

def headerLine (key : String) : String := "[" ++ key ++ "]\n"

end TapSuite.Toml
