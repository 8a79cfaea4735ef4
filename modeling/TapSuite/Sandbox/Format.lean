/-!
# Escapes and formats

The backslash escapes of `echo` and `printf`, and the format of `printf`.

    \n \t \\ …      one character
    \101  \0101     the byte with that octal number
    %s %d %%        the next argument as text or as number, and a percent sign
    %-5s %03d       the same, filled up to a width

A format is used again as long as arguments remain.
-/

namespace TapSuite.Sandbox

def charBytes (c : Char) : List UInt8 := String.utf8EncodeChar c

def escapeLetter? (c : Char) : Option UInt8 :=
  match c with
  | 'a' => some 7
  | 'b' => some 8
  | 't' => some 9
  | 'n' => some 10
  | 'v' => some 11
  | 'f' => some 12
  | 'r' => some 13
  | '\\' => some 92
  | _ => none

def isOctal (c : Char) : Bool := '0' ≤ c && c ≤ '7'

def octalByte (digits : List Char) : UInt8 :=
  UInt8.ofNat (digits.foldl (fun n c => 8 * n + (c.toNat - '0'.toNat)) 0)

/-- The octal digits at the start of a text, at most so many, and the rest. -/
def takeOctal : Nat → List Char → List Char × List Char
  | 0, t => ([], t)
  | n + 1, c :: t => if isOctal c then let (d, r) := takeOctal n t; (c :: d, r) else ([], c :: t)
  | _ + 1, [] => ([], [])

/-- What follows a backslash: the bytes that it stands for and the rest of the text.  `zero` says
that an octal number starts with a zero that does not count. -/
def escape (zero : Bool) (t : List Char) : List UInt8 × List Char :=
  match t with
  | [] => ([92], [])
  | c :: rest =>
    match escapeLetter? c with
    | some b => ([b], rest)
    | none =>
      if zero ∧ c = '0' then
        let (digits, rest) := takeOctal 3 rest
        ([octalByte digits], rest)
      else if zero = false ∧ isOctal c then
        let (digits, rest) := takeOctal 3 (c :: rest)
        ([octalByte digits], rest)
      else if zero = false ∧ (c = '"' ∨ c = '\'') then (charBytes c, rest)
      else (92 :: charBytes c, rest)

/-- A text with its escapes in place; the fuel is its length. -/
def unescape : Nat → List Char → List UInt8
  | 0, _ => []
  | _, [] => []
  | fuel + 1, '\\' :: t => (escape true t).1 ++ unescape fuel (escape true t).2
  | fuel + 1, c :: t => charBytes c ++ unescape fuel t

/-- The text before an escape `\c`, and whether there is one. -/
def cutText : List Char → List Char × Bool
  | [] => ([], false)
  | '\\' :: c :: t =>
    if c = 'c' then ([], true)
    else
      let (kept, cut) := cutText t
      ('\\' :: c :: kept, cut)
  | c :: t =>
    let (kept, cut) := cutText t
    (c :: kept, cut)

/-- How a directive lays out what it shows. -/
structure Layout where
  left : Bool := false
  zeros : Bool := false
  width : Nat := 0
  /-- The most characters that are shown of a text. -/
  most : Option Nat := none

/-- The number at the start of a text, zero if there is none, and what follows it. -/
def leadingNumber (t : List Char) : Nat × List Char :=
  ((t.takeWhile Char.isDigit).foldl (fun n c => 10 * n + (c.toNat - '0'.toNat)) 0,
    t.dropWhile Char.isDigit)

/-- The layout that a directive starts with and what follows it. -/
def layout (t : List Char) : Layout × List Char :=
  let flags := t.takeWhile fun c => c = '-' || c = '0'
  let (width, rest) := leadingNumber (t.drop flags.length)
  let l : Layout := { left := flags.contains '-', zeros := flags.contains '0', width }
  match rest with
  | '.' :: rest => ({ l with most := some (leadingNumber rest).1 }, (leadingNumber rest).2)
  | rest => (l, rest)

/-- A text filled up to the width of a layout. -/
def Layout.fill (l : Layout) (number : Bool) (t : List Char) : List Char :=
  let missing := l.width - t.length
  if l.left then t ++ List.replicate missing ' '
  else if l.zeros ∧ number then List.replicate missing '0' ++ t
  else List.replicate missing ' ' ++ t

/-- The bytes that an argument gives for a directive of a format. -/
def directive (l : Layout) (c : Char) (arg : String) : List UInt8 :=
  let number (t : List Char) : List UInt8 := (l.fill true t).flatMap charBytes
  let n : Int := arg.toInt?.getD 0
  match c with
  | 's' => (l.fill false (arg.toList.take (l.most.getD arg.length))).flatMap charBytes
  | 'b' => unescape arg.length arg.toList
  | 'c' => (l.fill false (arg.toList.take 1)).flatMap charBytes
  | 'd' => number (toString n).toList
  | 'i' => number (toString n).toList
  | 'u' => number (toString n).toList
  | 'o' => number (Nat.toDigits 8 n.toNat)
  | 'x' => number (Nat.toDigits 16 n.toNat)
  | 'X' => number ((Nat.toDigits 16 n.toNat).map Char.toUpper)
  | _ => []

/-- A format used once: what it gives and the arguments that remain.  The fuel is its length. -/
def formatOnce : Nat → List Char → List String → List UInt8 × List String
  | 0, _, args => ([], args)
  | _, [], args => ([], args)
  | fuel + 1, '\\' :: t, args =>
    let (bytes, rest) := escape false t
    let (more, args) := formatOnce fuel rest args
    (bytes ++ more, args)
  | fuel + 1, '%' :: '%' :: t, args =>
    let (more, args) := formatOnce fuel t args
    (37 :: more, args)
  | fuel + 1, '%' :: c :: t, args =>
    let (l, rest) := layout (c :: t)
    match rest with
    | [] => ([], args)
    | c :: t =>
      let bytes := directive l c (args.headD "")
      let (more, args) := formatOnce fuel t args.tail
      (bytes ++ more, args)
  | fuel + 1, c :: t, args =>
    let (more, args) := formatOnce fuel t args
    (charBytes c ++ more, args)

/-- A format used as long as arguments remain, and at least once. -/
def formatAll : Nat → List Char → List String → List UInt8
  | 0, _, _ => []
  | fuel + 1, format, args =>
    let (bytes, rest) := formatOnce format.length format args
    if rest.isEmpty ∨ args.length ≤ rest.length then bytes
    else bytes ++ formatAll fuel format rest

end TapSuite.Sandbox
