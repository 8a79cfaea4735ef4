import TapSuite.Toml.Token

/-!
# The lines of a TOML document

A document is a sequence of lines: headers, which name the table that the following entries go to,
and entries `key = value`.  Here only the layout counts; words have no meaning yet.

    [a.b]
    c = [1, "x"]

is the header of the key `a.b` and an entry with a list of two words.  Lists and inline tables may
nest at most 80 deep, and between their parts there may be line ends and comments.
-/

namespace TapSuite.Toml

/-! ## Types -/

/-- A value as it is laid out. -/
inductive Item where
  | word (w : Word)
  | list (items : List Item)
  | members (entries : List (List Word × Item))

/-- A line of a document; a key is the list of its parts. -/
inductive Line where
  /-- The header of a table. -/
  | table (key : List Word)
  /-- The header of the next table of an array. -/
  | nextTable (key : List Word)
  | entry (key : List Word) (value : Item)

/-- How deep lists and inline tables may nest, and how many parts a key may have. -/
def depthLimit : Nat := 80

/-! ## Blanks, line ends and comments -/

def skipBlanks : List Token → List Token
  | .blank _ :: ts => skipBlanks ts
  | ts => ts

/-- The tokens after blanks, line ends and comments. -/
def skipLines : List Token → List Token
  | .blank _ :: ts => skipLines ts
  | .lineEnd _ :: ts => skipLines ts
  | .comment _ :: ts => skipLines ts
  | ts => ts

/-- The tokens after the rest of a line that holds nothing more than a comment. -/
def endLine? : List Token → Option (List Token)
  | [] => some []
  | .blank _ :: ts => endLine? ts
  | .comment _ :: ts => endLine? ts
  | .lineEnd _ :: ts => some ts
  | _ => none

/-! ## Keys -/

/-- The parts of a key, which dots separate, and the tokens after them.  `expecting` says that a
part has to come; where it does not, it counts as missing. -/
def keyParts (expecting : Bool) : List Token → List Word × List Token
  | [] => (if expecting then [.missing] else [], [])
  | .blank _ :: ts => keyParts expecting ts
  | .dot :: ts =>
    let (parts, rest) := keyParts true ts
    (if expecting then .missing :: parts else parts, rest)
  | .word w :: ts =>
    if expecting then
      let (parts, rest) := keyParts false ts
      (w :: parts, rest)
    else ([], .word w :: ts)
  | ts => (if expecting then [.missing] else [], ts)

def startsKey : Token → Bool
  | .word _ => true
  | .dot => true
  | .equals => true
  | _ => false

/-! ## Bare values -/

/-- Whether a token goes on with a bare value. -/
def isBarePart : Token → Bool
  | .dot => true
  | .word w => w.spelling = .bare
  | _ => false

/-- The text of a bare value, which may hold dots and blanks, and the tokens after it. -/
def bareText : List Token → List Char × List Token
  | .dot :: ts => push2 '.' (bareText ts)
  | .word w :: ts =>
    if w.spelling = .bare then
      let (text, rest) := bareText ts
      (w.text ++ text, rest)
    else ([], .word w :: ts)
  | .blank b :: ts =>
    if ts.head?.any isBarePart then
      let (text, rest) := bareText ts
      (b ++ text, rest)
    else ([], .blank b :: ts)
  | ts => ([], ts)
where
  push2 (c : Char) (p : List Char × List Token) : List Char × List Token := (c :: p.1, p.2)

/-- The word that a value is, and the tokens after it. -/
def valueWord (ts : List Token) : Option (Item × List Token) :=
  match ts with
  | .word w :: rest =>
    if w.spelling = .bare then
      let (text, rest) := bareText ts
      some (.word ⟨.bare, text⟩, rest)
    else some (.word w, rest)
  | .dot :: _ =>
    let (text, rest) := bareText ts
    some (.word ⟨.bare, text⟩, rest)
  | _ => none

/-! ## Values -/

mutual
/-- The value that starts here, inside `depth` lists and inline tables. -/
def item? (fuel depth : Nat) (ts : List Token) : Option (Item × List Token) :=
  match fuel with
  | 0 => none
  | fuel + 1 =>
    match ts with
    | .openBracket :: ts => if depth < depthLimit then listItems? fuel (depth + 1) [] ts else none
    | .openBrace :: ts => if depth < depthLimit then tableItems? fuel (depth + 1) [] ts else none
    | ts => valueWord ts

/-- The rest of a list, after the items read so far, latest first. -/
def listItems? (fuel depth : Nat) (before : List Item) (ts : List Token) :
    Option (Item × List Token) :=
  match fuel with
  | 0 => none
  | fuel + 1 =>
    match skipLines ts with
    | .closeBracket :: rest => some (.list before.reverse, rest)
    | ts =>
      match item? fuel depth ts with
      | none => none
      | some (i, rest) =>
        match skipLines rest with
        | .comma :: rest => listItems? fuel depth (i :: before) rest
        | .closeBracket :: rest => some (.list (i :: before).reverse, rest)
        | _ => none

/-- The rest of an inline table, after the entries read so far, latest first. -/
def tableItems? (fuel depth : Nat) (before : List (List Word × Item)) (ts : List Token) :
    Option (Item × List Token) :=
  match fuel with
  | 0 => none
  | fuel + 1 =>
    match skipLines ts with
    | .closeBrace :: rest => some (.members before.reverse, rest)
    | ts =>
      if ts.head?.any startsKey then
        let (key, rest) := keyParts true ts
        match skipLines rest with
        | .equals :: rest =>
          match item? fuel depth (skipLines rest) with
          | none => none
          | some (i, rest) =>
            match skipLines rest with
            | .comma :: rest => tableItems? fuel depth ((key, i) :: before) rest
            | .closeBrace :: rest => some (.members ((key, i) :: before).reverse, rest)
            | _ => none
        | _ => none
      else none
end

/-- Whether a value is missing where a token stands. -/
def endsValue : Token → Bool
  | .lineEnd _ => true
  | .comment _ => true
  | .comma => true
  | _ => false

/-- The value of an entry, which may be missing. -/
def entryItem? (ts : List Token) : Option (Item × List Token) :=
  if ts.head?.all endsValue then some (.word .missing, ts)
  else item? (2 * ts.length + 1) 0 ts

/-! ## Documents -/

/-- The header that starts here, after its first bracket. -/
def header? (ts : List Token) : Option (Line × List Token) :=
  match ts with
  | .openBracket :: ts =>
    match keyParts true ts with
    | (key, .closeBracket :: .closeBracket :: rest) => some (.nextTable key, rest)
    | _ => none
  | ts =>
    match keyParts true ts with
    | (key, .closeBracket :: rest) => some (.table key, rest)
    | _ => none

def entry? (ts : List Token) : Option (Line × List Token) :=
  match keyParts true ts with
  | (key, .equals :: rest) =>
    (entryItem? (skipBlanks rest)).map fun (value, rest) => (.entry key value, rest)
  | _ => none

/-- The lines of some tokens; the fuel is more than their number. -/
def linesFrom? (fuel : Nat) (ts : List Token) : Option (List Line) :=
  match fuel with
  | 0 => none
  | fuel + 1 =>
    match skipLines ts with
    | [] => some []
    | token :: ts =>
      let line? :=
        match token with
        | .openBracket => header? ts
        | token => if startsKey token then entry? (token :: ts) else none
      match line? with
      | none => none
      | some (line, rest) =>
        match endLine? rest with
        | none => none
        | some rest => (linesFrom? fuel rest).map (line :: ·)

/-- The lines of a document; none if its layout is wrong. -/
def lines? (t : List Char) : Option (List Line) :=
  let ts := tokens t
  if ts.all Token.isSound then linesFrom? (ts.length + 1) ts else none

end TapSuite.Toml
