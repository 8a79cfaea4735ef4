import TapSuite.Toml.Token

/-!
# TOML strings

What a quoted word says, for the four kinds of quotes.  Each reader is given the text after the
opening quotes, and the closing quotes have to be its end.

A basic text knows escapes; a literal one does not.  On several lines a basic text may be cut by a
backslash at a line's end, which takes the blanks up to the next character with it.
-/

namespace TapSuite.Toml

/-! ## Characters -/

def hexDigit? (c : Char) : Option Nat :=
  if '0' ≤ c ∧ c ≤ '9' then some (c.toNat - '0'.toNat)
  else if 'a' ≤ c ∧ c ≤ 'f' then some (c.toNat - 'a'.toNat + 10)
  else if 'A' ≤ c ∧ c ≤ 'F' then some (c.toNat - 'A'.toNat + 10)
  else none

/-- The character of a code point; none for a surrogate and beyond the last one. -/
def scalar? (n : Nat) : Option Char :=
  if h : n.isValidChar then some (Char.ofNatAux n h) else none

def letterEscape? (c : Char) : Option Char :=
  if c = 'b' then some '\x08'
  else if c = 't' then some '\t'
  else if c = 'n' then some '\n'
  else if c = 'f' then some '\x0c'
  else if c = 'r' then some '\r'
  else if c = 'e' then some '\x1b'
  else if c = '"' then some '"'
  else if c = '\\' then some '\\'
  else none

/-- The number of digits of a code point escape. -/
def codeEscape? (c : Char) : Option Nat :=
  if c = 'x' then some 2 else if c = 'u' then some 4 else if c = 'U' then some 8 else none

/-! ## Basic text -/

/-- Where a reader of basic text stands. -/
inductive Place where
  /-- between characters -/
  | plain
  /-- after a backslash -/
  | escape
  /-- in a code point escape, with the digits still to come and the value so far -/
  | code (left : Nat) (value : Nat)
  /-- after a backslash and blanks, before the line end -/
  | lineEnd
  /-- after a line end that a backslash cut -/
  | skip
  deriving DecidableEq

/-- What a basic text says. -/
def basic : Place → List Char → Option (List Char)
  | _, [] => none
  | .escape, c :: t =>
    match letterEscape? c, codeEscape? c with
    | some d, _ => (basic .plain t).map (d :: ·)
    | none, some n => basic (.code n 0) t
    | none, none => none
  | .code left value, c :: t =>
    match hexDigit? c with
    | none => none
    | some d =>
      if left ≤ 1 then
        match scalar? (16 * value + d) with
        | some x => (basic .plain t).map (x :: ·)
        | none => none
      else basic (.code (left - 1) (16 * value + d)) t
  | _, c :: t =>
    if c = '"' then (if t.isEmpty then some [] else none)
    else if c = '\\' then basic .escape t
    else if isPlain c then (basic .plain t).map (c :: ·)
    else none

/-! ## Several lines -/

/-- The text without a line end at its start. -/
def dropLineEnd : List Char → List Char
  | '\n' :: t => t
  | '\r' :: '\n' :: t => t
  | t => t

/-- Whether a line end starts with a character before a text. -/
def startsLineEnd (c : Char) (t : List Char) : Bool :=
  c = '\n' || (c = '\r' && t.head? = some '\n')

/-- The last quotes of a text on several lines, which run into the closing three: two at most. -/
def lastQuotes? (quote : Char) (t : List Char) : Option (List Char) :=
  if t.length ≤ 2 ∧ t.all (· = quote) then some t else none

def basicLines : Place → List Char → Option (List Char)
  | _, [] => none
  | .escape, c :: t =>
    match letterEscape? c, codeEscape? c with
    | some d, _ => (basicLines .plain t).map (d :: ·)
    | none, some n => basicLines (.code n 0) t
    | none, none =>
      if c = '\n' then basicLines .skip t
      else if isSpace c ∨ startsLineEnd c t then basicLines .lineEnd t
      else none
  | .code left value, c :: t =>
    match hexDigit? c with
    | none => none
    | some d =>
      if left ≤ 1 then
        match scalar? (16 * value + d) with
        | some x => (basicLines .plain t).map (x :: ·)
        | none => none
      else basicLines (.code (left - 1) (16 * value + d)) t
  | .lineEnd, c :: t =>
    if c = '\n' then basicLines .skip t
    else if isSpace c ∨ startsLineEnd c t then basicLines .lineEnd t
    else none
  | place, c :: t =>
    if place = .skip ∧ (isSpace c ∨ startsLineEnd c t) then basicLines .skip t
    else if c = '"' then
      match t with
      | '"' :: '"' :: quotes => lastQuotes? '"' quotes
      | _ => (basicLines .plain t).map ('"' :: ·)
    else if c = '\\' then basicLines .escape t
    else if isPlain c ∨ startsLineEnd c t then (basicLines .plain t).map (c :: ·)
    else none

/-! ## Literal text -/

def literal : List Char → Option (List Char)
  | [] => none
  | c :: t =>
    if c = '\'' then (if t.isEmpty then some [] else none)
    else if isPlain c then (literal t).map (c :: ·)
    else none

def literalLines : List Char → Option (List Char)
  | [] => none
  | c :: t =>
    if c = '\'' then
      match t with
      | '\'' :: '\'' :: quotes => lastQuotes? '\'' quotes
      | _ => (literalLines t).map ('\'' :: ·)
    else if isPlain c ∨ startsLineEnd c t then (literalLines t).map (c :: ·)
    else none

/-! ## Words -/

/-- Whether a character may stand in a bare key. -/
def isBare (c : Char) : Bool := c.isAlphanum || c = '_' || c = '-'

/-- What a word says between its quotes; none for a bare word. -/
def Word.quoted? (w : Word) : Option (List Char) :=
  match w.spelling with
  | .bare => none
  | .basic => basic .plain w.text
  | .literal => literal w.text
  | .basicLines => basicLines .plain (dropLineEnd w.text)
  | .literalLines => literalLines (dropLineEnd w.text)

/-- The part of a key that a word is.  No part is quoted on several lines. -/
def Word.part? (w : Word) : Option String :=
  match w.spelling with
  | .bare => if w.text ≠ [] ∧ w.text.all isBare then some (String.ofList w.text) else none
  | .basic => w.quoted?.map String.ofList
  | .literal => w.quoted?.map String.ofList
  | _ => none

end TapSuite.Toml
