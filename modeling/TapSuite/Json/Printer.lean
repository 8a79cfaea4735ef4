import TapSuite.Json.Value

/-!
# Writing JSON

One printer for two layouts: compact, without any space, and pretty, with one item or member a line
and two more spaces for each level.

    compact {a: [1, 2]} = {"a":[1,2]}

Empty arrays and objects stay on one line.  In a text `"`, `\` and the control characters below the
space are escaped, in the short form where there is one; all other characters stand for themselves.
-/

namespace TapSuite.Json

/-! ## Texts -/

/-- The control characters with a letter of their own, and these letters. -/
def shortEscape? (c : Char) : Option Char :=
  if c = '"' then some '"'
  else if c = '\\' then some '\\'
  else if c = '\x08' then some 'b'
  else if c = '\t' then some 't'
  else if c = '\n' then some 'n'
  else if c = '\x0c' then some 'f'
  else if c = '\r' then some 'r'
  else none

def writeChar (c : Char) : List Char :=
  match shortEscape? c with
  | some letter => ['\\', letter]
  | none =>
    if c.toNat < 0x20 then
      ['\\', 'u', '0', '0', Nat.digitChar (c.toNat / 16), Nat.digitChar (c.toNat % 16)]
    else [c]

def writeText (s : String) : List Char := '"' :: s.toList.flatMap writeChar ++ ['"']

/-! ## Layouts -/

/-- The depth of a value in the pretty layout; none in the compact one. -/
abbrev Layout := Option Nat

def Layout.deeper (l : Layout) : Layout := l.map (· + 1)

def Layout.newline : Layout → List Char
  | none => []
  | some depth => '\n' :: List.replicate (2 * depth) ' '

/-- What stands between a member's name and its value. -/
def Layout.colon : Layout → List Char
  | none => [':']
  | some _ => [':', ' ']

/-! ## Values -/

mutual

def write (l : Layout) : Value → List Char
  | .null => ['n', 'u', 'l', 'l']
  | .boolean true => ['t', 'r', 'u', 'e']
  | .boolean false => ['f', 'a', 'l', 's', 'e']
  | .number n => (toString n).toList
  | .text s => writeText s
  | .array [] => ['[', ']']
  | .array (v :: rest) =>
    '[' :: l.deeper.newline ++ write l.deeper v ++ writeItems l.deeper rest ++ l.newline ++ [']']
  | .object [] => ['\x7b', '\x7d']
  | .object ((k, v) :: rest) =>
    '\x7b' :: l.deeper.newline ++ writeText k ++ l.colon ++ write l.deeper v ++
      writeMembers l.deeper rest ++ l.newline ++ ['\x7d']

/-- The items after the first. -/
def writeItems (l : Layout) : List Value → List Char
  | [] => []
  | v :: rest => ',' :: l.newline ++ write l v ++ writeItems l rest

/-- The members after the first. -/
def writeMembers (l : Layout) : List (String × Value) → List Char
  | [] => []
  | (k, v) :: rest =>
    ',' :: l.newline ++ writeText k ++ l.colon ++ write l v ++ writeMembers l rest

end

def compact (v : Value) : String := String.ofList (write none v)

def pretty (v : Value) : String := String.ofList (write (some 0) v)

end TapSuite.Json
