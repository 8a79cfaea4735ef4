/-!
# TOML tokens

A document is cut into tokens: marks, blanks, line ends, comments and words.  Cutting never fails;
whether a word has a meaning is asked later, so that the layout of a document is known first.

    tokens ['a', ' ', '=', '1'] = [word a, blank, equals, word 1]

A quoted word ends at its closing quotes.  One on a single line ends before the line end if it has
none; one on several lines runs to the end of the document then.
-/

namespace TapSuite.Toml

/-! ## Types -/

/-- How a word is written: bare, or between one of the four kinds of quotes. -/
inductive Spelling where
  | bare
  | basic
  | literal
  | basicLines
  | literalLines
  deriving DecidableEq

/-- A word.  The text of a quoted one is what follows its opening quotes, with the closing ones. -/
structure Word where
  spelling : Spelling
  text : List Char
  deriving DecidableEq

inductive Token where
  | dot
  | equals
  | comma
  | openBracket
  | closeBracket
  | openBrace
  | closeBrace
  | blank (text : List Char)
  /-- A line end; a carriage return alone is no sound one. -/
  | lineEnd (sound : Bool)
  | comment (text : List Char)
  | word (w : Word)
  deriving DecidableEq

/-- The word that stands where one is missing. -/
def Word.missing : Word := ⟨.bare, []⟩

/-! ## Characters -/

/-- A space or a tab. -/
def isSpace (c : Char) : Bool := c = ' ' || c = '\t'

/-- A character that may stand in a text or a comment: no control character but the tab. -/
def isPlain (c : Char) : Bool := (0x20 ≤ c.toNat && c.toNat ≠ 0x7F) || c = '\t'

/-- A character that goes on with a bare word.  Quotes do: they open a text only where a word
starts. -/
def isWordChar (c : Char) : Bool :=
  !(c = '.' || c = '=' || c = ',' || c = '[' || c = ']' || c = '\x7b' || c = '\x7d' ||
    isSpace c || c = '#' || c = '\r' || c = '\n')

/-! ## Quoted words -/

/-- A character put before the first of two parts of a text. -/
def push (c : Char) (parts : List Char × List Char) : List Char × List Char :=
  (c :: parts.1, parts.2)

/-- A basic text up to its closing quote, and what follows.  `escaped` says that a backslash stands
right before. -/
def basicExtent (escaped : Bool) : List Char → List Char × List Char
  | [] => ([], [])
  | c :: t =>
    if escaped ∧ (c = '"' ∨ c = '\\') then push c (basicExtent false t)
    else if c = '"' then ([c], t)
    else if c = '\n' then ([], c :: t)
    else push c (basicExtent (c = '\\') t)

/-- A literal text up to its closing quote, and what follows. -/
def literalExtent : List Char → List Char × List Char
  | [] => ([], [])
  | c :: t =>
    if c = '\'' then ([c], t)
    else if c = '\n' then ([], c :: t)
    else push c (literalExtent t)

/-- The quotes of the text that run into the closing ones, and what follows: up to two quotes may
stand right before the closing three. -/
def closing (quote : Char) (t : List Char) : List Char × List Char :=
  match t with
  | a :: b :: r =>
    if a = quote ∧ b = quote then ([quote, quote], r)
    else if a = quote then ([quote], b :: r)
    else ([], t)
  | [a] => if a = quote then ([quote], []) else ([], t)
  | [] => ([], [])

/-- A text on several lines up to its closing quotes, and what follows.  `escapes` says that the
text knows escapes. -/
def linesExtent (quote : Char) (escapes escaped : Bool) : List Char → List Char × List Char
  | [] => ([], [])
  | c :: t =>
    if escaped ∧ (c = '"' ∨ c = '\\') then push c (linesExtent quote escapes false t)
    else if c = quote then
      match t with
      | a :: b :: r =>
        if a = quote ∧ b = quote then
          let (quotes, rest) := closing quote r
          (c :: a :: b :: quotes, rest)
        else push c (linesExtent quote escapes false (a :: b :: r))
      | t => push c (linesExtent quote escapes false t)
    else push c (linesExtent quote escapes (escapes && c = '\\') t)

/-- A word of some spelling made of the first of two parts of a text. -/
def wordOf (spelling : Spelling) (parts : List Char × List Char) : Token × List Char :=
  (.word ⟨spelling, parts.1⟩, parts.2)

/-! ## Cutting -/

def mark? (c : Char) : Option Token :=
  if c = '.' then some .dot
  else if c = '=' then some .equals
  else if c = ',' then some .comma
  else if c = '[' then some .openBracket
  else if c = ']' then some .closeBracket
  else if c = '\x7b' then some .openBrace
  else if c = '\x7d' then some .closeBrace
  else none

/-- The first token of a text that starts with a character, and what follows it. -/
def cut (c : Char) (t : List Char) : Token × List Char :=
  match mark? c with
  | some token => (token, t)
  | none =>
    if isSpace c then (.blank (c :: t.takeWhile isSpace), t.dropWhile isSpace)
    else if c = '\n' then (.lineEnd true, t)
    else if c = '\r' then
      match t with
      | '\n' :: t => (.lineEnd true, t)
      | t => (.lineEnd false, t)
    else if c = '#' then
      (.comment (t.takeWhile fun c => !(c = '\r' || c = '\n')),
        t.dropWhile fun c => !(c = '\r' || c = '\n'))
    else if c = '"' then
      match t with
      | '"' :: '"' :: t => wordOf .basicLines (linesExtent '"' true false t)
      | t => wordOf .basic (basicExtent false t)
    else if c = '\'' then
      match t with
      | '\'' :: '\'' :: t => wordOf .literalLines (linesExtent '\'' false false t)
      | t => wordOf .literal (literalExtent t)
    else wordOf .bare (c :: t.takeWhile isWordChar, t.dropWhile isWordChar)

/-- The tokens of a text; the fuel is at least its length. -/
def tokensFrom (fuel : Nat) (t : List Char) : List Token :=
  match fuel, t with
  | fuel + 1, c :: t =>
    let (token, rest) := cut c t
    token :: tokensFrom fuel rest
  | _, _ => []

def tokens (t : List Char) : List Token := tokensFrom t.length t

/-- Whether a comment or a line end is well written; the other tokens are looked at later. -/
def Token.isSound : Token → Bool
  | .lineEnd sound => sound
  | .comment text => text.all isPlain
  | _ => true

end TapSuite.Toml
