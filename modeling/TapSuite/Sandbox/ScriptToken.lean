import TapSuite.Sandbox.Script

/-!
# Tokens of a script

A script is cut into words, redirections and operators.  Words hold single and double quotes,
backslashes, and after `$` parameters, scripts and arithmetic.  A `#` where a word could start
begins a comment.
-/

namespace TapSuite.Sandbox

/-- A piece of a script. -/
inductive ScriptToken where
  | word (w : Word)
  | redirect (fd : Nat) (kind : RedirectKind)
  | newline
  | semicolon
  | both
  | either
  | pipe
  | background
  | opening
  | closing
  /-- a quote that is never closed -/
  | broken
  deriving DecidableEq

/-! ## After a dollar sign -/

def isNameStart (c : Char) : Bool := c.isAlpha || c = '_'

def isNamePart (c : Char) : Bool := isNameStart c || c.isDigit

/-- A parameter that is one character long. -/
def isShortName (c : Char) : Bool :=
  c.isDigit || ['$', '#', '?', '@', '*', '!', '-'].contains c

/-- The text up to the parenthesis that closes an open one, and what follows it.  `quote` is the
quote that is open, and `depth` counts the parentheses opened since. -/
def untilClosing (quote : Option Char) (depth : Nat) : List Char → List Char × List Char
  | [] => ([], [])
  | c :: t =>
    let keep (r : List Char × List Char) := (c :: r.1, r.2)
    match quote with
    | some q => keep (untilClosing (if c = q then none else quote) depth t)
    | none =>
      if c = '\'' ∨ c = '"' then keep (untilClosing (some c) depth t)
      else if c = '(' then keep (untilClosing none (depth + 1) t)
      else if c = ')' then
        if depth = 0 then ([], t) else keep (untilClosing none (depth - 1) t)
      else keep (untilClosing none depth t)

/-- The parameter between braces, with the text that may stand in its place. -/
def bracedValue (inner : List Char) (quoted : Bool) : WordPart :=
  let name := inner.takeWhile fun c => isNamePart c || isShortName c
  match inner.dropWhile fun c => isNamePart c || isShortName c with
  | ':' :: '-' :: fallback => .value name (some fallback) quoted
  | '-' :: fallback => .value name (some fallback) quoted
  | _ => .value (if name.isEmpty then inner else name) none quoted

/-- The part that a dollar sign begins, and what follows it, if it begins one. -/
def afterDollar? (quoted : Bool) (t : List Char) : Option (WordPart × List Char) :=
  match t with
  | '\x7b' :: r =>
    some (bracedValue (r.takeWhile (· ≠ '\x7d')) quoted, (r.dropWhile (· ≠ '\x7d')).drop 1)
  | '(' :: '(' :: r => some (.number (untilClosing none 0 r).1, (untilClosing none 0 r).2.drop 1)
  | '(' :: r => some (.output (untilClosing none 0 r).1 quoted, (untilClosing none 0 r).2)
  | c :: r =>
    if isShortName c then some (.value [c] none quoted, r)
    else if isNameStart c then
      some (.value (t.takeWhile isNamePart) none quoted, t.dropWhile isNamePart)
    else none
  | [] => none

/-! ## Words -/

/-- A reading of the parts of a word: the parts, and what follows them.  None if a quote is never
closed. -/
abbrev PartsRead := Option (List WordPart × List Char)

def PartsRead.put (p : WordPart) (r : PartsRead) : PartsRead :=
  r.map fun (parts, rest) => (p :: parts, rest)

/-- The text up to a mark and what follows the mark; none without the mark. -/
def untilMark? (mark : Char) (t : List Char) : Option (List Char × List Char) :=
  match t.dropWhile (· ≠ mark) with
  | [] => none
  | _ :: rest => some (t.takeWhile (· ≠ mark), rest)

/-- A character that a backslash between double quotes takes the meaning from. -/
def keepsMeaning (c : Char) : Bool := ¬ ['$', '\x60', '"', '\\'].contains c

/-- The parts between double quotes and what follows the closing one; the fuel is the text's
length. -/
def doubleQuoted : Nat → List Char → PartsRead
  | 0, _ => none
  | _, [] => none
  | fuel + 1, c :: t =>
    if c = '"' then some ([], t)
    else if c = '\x60' then
      match untilMark? '\x60' t with
      | some (script, t) => (doubleQuoted fuel t).put (.output script true)
      | none => none
    else if c = '$' then
      match afterDollar? true t with
      | some (part, t) => (doubleQuoted fuel t).put part
      | none => (doubleQuoted fuel t).put (.text ['$'])
    else if c = '\\' then
      match t with
      | [] => none
      | d :: t =>
        if d = '\n' then doubleQuoted fuel t
        else if keepsMeaning d then (doubleQuoted fuel t).put (.text ['\\', d])
        else (doubleQuoted fuel t).put (.text [d])
    else (doubleQuoted fuel t).put (.text [c])

def endsWord (c : Char) : Bool := [' ', '\t', '\n', ';', '&', '|', '<', '>', '(', ')'].contains c

/-- A character that stands for itself outside of quotes. -/
def isBareChar (c : Char) : Bool := !endsWord c && !(['\'', '"', '\\', '$', '\x60'].contains c)

/-- The parts of a word and what follows it; the fuel is the text's length. -/
def wordParts : Nat → List Char → PartsRead
  | 0, t => some ([], t)
  | _, [] => some ([], [])
  | fuel + 1, c :: t =>
    if isBareChar c then
      (wordParts fuel (t.dropWhile isBareChar)).put (.bare (c :: t.takeWhile isBareChar))
    else if c = '\'' then
      match untilMark? '\'' t with
      | some (quoted, t) => (wordParts fuel t).put (.text quoted)
      | none => none
    else if c = '"' then
      match doubleQuoted t.length t with
      | some (quoted, t) =>
        (wordParts fuel t).map fun (parts, rest) => (.text [] :: quoted ++ parts, rest)
      | none => none
    else if c = '\x60' then
      match untilMark? '\x60' t with
      | some (script, t) => (wordParts fuel t).put (.output script false)
      | none => none
    else if c = '$' then
      match afterDollar? false t with
      | some (part, t) => (wordParts fuel t).put part
      | none => (wordParts fuel t).put (.bare ['$'])
    else if c = '\\' then
      match t with
      | [] => some ([.text ['\\']], [])
      | d :: t => if d = '\n' then wordParts fuel t else (wordParts fuel t).put (.text [d])
    else some ([], c :: t)

/-! ## Redirections -/

/-- The descriptor that stands right before a redirection, the redirection's own if none does. -/
def descriptor (digits : List Char) (dflt : Nat) : Nat :=
  if digits.isEmpty then dflt else digits.foldl (fun n c => 10 * n + (c.toNat - '0'.toNat)) 0

/-- The redirection after some digits and what follows it. -/
def redirection? (digits : List Char) (t : List Char) : Option (ScriptToken × List Char) :=
  match t with
  | '>' :: '&' :: t => some (.redirect (descriptor digits 1) .copy, t)
  | '>' :: '>' :: t => some (.redirect (descriptor digits 1) .append, t)
  | '>' :: t => some (.redirect (descriptor digits 1) .output, t)
  | '<' :: '&' :: t => some (.redirect (descriptor digits 0) .copy, t)
  | '<' :: t => some (.redirect (descriptor digits 0) .input, t)
  | _ => none

/-! ## Scripts -/

/-- The operator that a text starts with and what follows it. -/
def operator? (t : List Char) : Option (ScriptToken × List Char) :=
  match t with
  | '\n' :: t => some (.newline, t)
  | ';' :: t => some (.semicolon, t)
  | '&' :: '&' :: t => some (.both, t)
  | '&' :: t => some (.background, t)
  | '|' :: '|' :: t => some (.either, t)
  | '|' :: t => some (.pipe, t)
  | '(' :: t => some (.opening, t)
  | ')' :: t => some (.closing, t)
  | _ => none

/-- The token that a text starts with and what follows it. -/
def token (t : List Char) : ScriptToken × List Char :=
  match operator? t, redirection? (t.takeWhile Char.isDigit) (t.dropWhile Char.isDigit) with
  | some r, _ => r
  | none, some r => r
  | none, none =>
    match wordParts t.length t with
    | some (parts, rest) => (.word parts, rest)
    | none => (.broken, [])

/-- The tokens of a script with the numbers of their lines; the fuel is its length. -/
def scriptTokens : Nat → Nat → List Char → List (Nat × ScriptToken)
  | 0, _, _ => []
  | _, _, [] => []
  | fuel + 1, line, c :: t =>
    if c = ' ' ∨ c = '\t' then scriptTokens fuel line t
    else if c = '#' then scriptTokens fuel line (t.dropWhile (· ≠ '\n'))
    else
      let (read, rest) := token (c :: t)
      (line, read) :: scriptTokens fuel (line + ((c :: t).count '\n' - rest.count '\n')) rest

end TapSuite.Sandbox
