import TapSuite.Text.Alphanumeric

/-!
# Variables and the home directory

Before a command line is cut into words, `$name` and `${name}` are replaced by the values of
variables, and a `~` at its start by the home directory.

    $name         the value; the name is as many letters, digits and low lines as follow
    ${name}       the value
    ${name:-text} the value, or the text if the variable is not set
    $$            a dollar sign

Quotes do not matter here, and what a variable brings in is not expanded again.
-/

namespace TapSuite.Command

/-- The variables that are set, with their values. -/
abbrev Environment := List (String × String)

/-! ## Pieces -/

def isNameChar (c : Char) : Bool := Text.isAlphanumeric c || c = '_'

/-- What stands before the first `:-`, and what stands after it, if there is one. -/
def cutDefault : List Char → List Char × Option (List Char)
  | ':' :: '-' :: t => ([], some t)
  | c :: t =>
    let (name, dflt) := cutDefault t
    (c :: name, dflt)
  | [] => ([], none)

/-- The name and the default between braces.  A default needs a name before it. -/
def inBraces (t : List Char) : List Char × Option (List Char) :=
  match cutDefault t with
  | ([], some _) => (t, none)
  | cut => cut

/-- A piece of a command line. -/
inductive Piece where
  | char (c : Char)
  | variable (name : List Char) (dflt : Option (List Char))
  deriving DecidableEq

/-- The pieces of a command line; the fuel is its length. -/
def pieces : Nat → List Char → List Piece
  | 0, _ => []
  | _, [] => []
  | fuel + 1, '$' :: t =>
    match t with
    | '\x7b' :: inner =>
      if inner.contains '\x7d' then
        let (name, dflt) := inBraces (inner.takeWhile (· ≠ '\x7d'))
        .variable name dflt :: pieces fuel ((inner.dropWhile (· ≠ '\x7d')).drop 1)
      else .char '$' :: .char '\x7b' :: pieces fuel inner
    | '$' :: t => .char '$' :: pieces fuel t
    | t =>
      let name := t.takeWhile isNameChar
      if name.isEmpty then .char '$' :: pieces fuel t
      else .variable name none :: pieces fuel (t.dropWhile isNameChar)
  | fuel + 1, c :: t => .char c :: pieces fuel t

/-! ## Expansion -/

/-- The text of a piece; the error is the name of a variable that is not set. -/
def Piece.expand (env : Environment) : Piece → Except String (List Char)
  | .char c => .ok [c]
  | .variable name dflt =>
    match env.lookup (String.ofList name), dflt with
    | some v, _ => .ok v.toList
    | none, some t => .ok t
    | none, none => .error (String.ofList name)

/-- The text of all pieces; the error is the first name that is not set. -/
def expandAll (env : Environment) : List Piece → Except String (List Char)
  | [] => .ok []
  | p :: rest =>
    match p.expand env with
    | .error name => .error name
    | .ok s => (expandAll env rest).map (s ++ ·)

/-- The text with the home directory for a `~` that stands alone before its first slash. -/
def expandHome (env : Environment) (t : List Char) : List Char :=
  match t with
  | '~' :: rest =>
    match env.lookup "HOME" with
    | some home => if rest.head?.all (· = '/') then home.toList ++ rest else t
    | none => t
  | t => t

/-- A command line with its variables and its home directory in place.  A `~` that a variable
brings to the start stays. -/
def expand (env : Environment) (line : String) : Except String String :=
  let t := line.toList
  (expandAll env (pieces t.length t)).map fun expanded =>
    String.ofList (if t.head? = some '~' then expandHome env expanded else expanded)

/-- The names of the variables that a piece asks for. -/
def Piece.names : Piece → List String
  | .char _ => []
  | .variable name _ => [String.ofList name]

/-- The names of the variables that a command line asks for. -/
def variableNames (line : String) : List String :=
  (pieces line.toList.length line.toList).flatMap Piece.names

end TapSuite.Command
