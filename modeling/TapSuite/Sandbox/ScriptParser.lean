import TapSuite.Sandbox.ScriptToken

/-!
# Reading scripts

The commands of a script, read from its tokens by descent.  A script is run line by line, so the
lines before one with a fault are kept.

    list     = andOr (";" andOr)*           andOr   = pipeline (("&&" | "||") pipeline)*
    pipeline = "!"? command ("|" command)*
-/

namespace TapSuite.Sandbox

/-- The tokens of a script with the numbers of their lines. -/
abbrev Tokens := List (Nat × ScriptToken)

/-! ## Faults -/

/-- Why a script cannot be read, and the line of the fault. -/
structure SyntaxFault where
  line : Nat
  message : String
  deriving DecidableEq

def ScriptToken.shown : ScriptToken → String
  | .word [.bare t] => "\"" ++ String.ofList t ++ "\""
  | .word _ => "word"
  | .redirect _ _ => "redirection"
  | .newline => "newline"
  | .semicolon => "\";\""
  | .both => "\"&&\""
  | .either => "\"||\""
  | .pipe => "\"|\""
  | .background => "\"&\""
  | .opening => "\"(\""
  | .closing => "\")\""
  | .broken => "quote"

/-- The fault of a script that should not go on like this. -/
def unexpected (line : Nat) : Tokens → SyntaxFault
  | [] => ⟨line, "end of file unexpected"⟩
  | (line, .broken) :: _ => ⟨line, "Unterminated quoted string"⟩
  | (line, t) :: _ => ⟨line, t.shown ++ " unexpected"⟩

/-- A reading of a part of a script: the part, and the tokens after it. -/
abbrev ScriptRead := Except SyntaxFault (Script × Tokens)

/-! ## Words with a meaning -/

def bareWord? : Tokens → Option (List Char)
  | (_, .word [.bare t]) :: _ => some t
  | _ => none

def startsWith (word : String) (ts : Tokens) : Bool := bareWord? ts = some word.toList

def endsList (ts : Tokens) : Bool :=
  ts.isEmpty || (ts.head?.map (·.2)) = some .closing ||
    ["then", "else", "elif", "fi", "do", "done", "\x7d"].any fun word => startsWith word ts

/-- The tokens after a certain bare word. -/
def expect (word : String) (line : Nat) (ts : Tokens) : Except SyntaxFault Tokens :=
  if startsWith word ts then .ok ts.tail else .error (unexpected line ts)

def skipNewlines : Tokens → Tokens
  | (_, .newline) :: ts => skipNewlines ts
  | ts => ts

def skipSeparators : Tokens → Tokens
  | (_, .newline) :: ts => skipSeparators ts
  | (_, .semicolon) :: ts => skipSeparators ts
  | ts => ts

/-! ## Simple commands -/

def wordsOf : Tokens → List Word × Tokens
  | (_, .word w) :: ts => (w :: (wordsOf ts).1, (wordsOf ts).2)
  | ts => ([], ts)

def redirectsOf : Tokens → List Redirect × Tokens
  | (_, .redirect fd kind) :: (_, .word target) :: ts =>
    (⟨fd, kind, target⟩ :: (redirectsOf ts).1, (redirectsOf ts).2)
  | ts => ([], ts)

def simpleParts : Tokens → List Word × List Redirect × Tokens
  | (_, .redirect fd kind) :: (_, .word target) :: ts =>
    let (words, redirects, rest) := simpleParts ts
    (words, ⟨fd, kind, target⟩ :: redirects, rest)
  | (_, .word w) :: ts =>
    let (words, redirects, rest) := simpleParts ts
    (w :: words, redirects, rest)
  | ts => ([], [], ts)

/-- A simple command of at least one word or redirection. -/
def simpleCommand (line : Nat) (ts : Tokens) : ScriptRead :=
  let (words, redirects, rest) := simpleParts ts
  if words.isEmpty ∧ redirects.isEmpty then .error (unexpected line ts)
  else .ok (.simple line words redirects, rest)

def withRedirects : ScriptRead → ScriptRead
  | .error e => .error e
  | .ok (c, ts) =>
    match redirectsOf ts with
    | ([], ts) => .ok (c, ts)
    | (redirects, ts) => .ok (.redirected c redirects, ts)

/-! ## Commands -/

mutual

def readCommand (fuel line : Nat) (ts : Tokens) : ScriptRead :=
  match fuel with
  | 0 => .error (unexpected line ts)
  | fuel + 1 =>
    match ts with
    | (line, .opening) :: rest => do
      let (body, rest) ← readList fuel line rest
      match rest with
      | (_, .closing) :: rest => withRedirects (.ok (.subshell body, rest))
      | rest => .error (unexpected line rest)
    | ts =>
      let line := (ts.head?.map (·.1)).getD line
      if startsWith "\x7b" ts then do
        let (body, rest) ← readList fuel line ts.tail
        withRedirects (.ok (body, ← expect "\x7d" line rest))
      else if startsWith "if" ts then withRedirects (readBranch fuel line ts.tail)
      else if startsWith "while" ts then withRedirects (readLoop fuel line true ts.tail)
      else if startsWith "until" ts then withRedirects (readLoop fuel line false ts.tail)
      else if startsWith "for" ts then withRedirects (readEach fuel line ts.tail)
      else if endsList ts then .error (unexpected line ts)
      else simpleCommand line ts

/-- A condition and what follows it up to `fi`. -/
def readBranch (fuel line : Nat) (ts : Tokens) : ScriptRead :=
  match fuel with
  | 0 => .error (unexpected line ts)
  | fuel + 1 => do
    let (condition, ts) ← readList fuel line ts
    let (yes, ts) ← readList fuel line (← expect "then" line ts)
    if startsWith "elif" ts then
      let (no, ts) ← readBranch fuel line ts.tail
      .ok (.branch condition yes no, ts)
    else if startsWith "else" ts then
      let (no, ts) ← readList fuel line ts.tail
      .ok (.branch condition yes no, ← expect "fi" line ts)
    else .ok (.branch condition yes .nothing, ← expect "fi" line ts)

def readLoop (fuel line : Nat) (whileSuccess : Bool) (ts : Tokens) : ScriptRead :=
  match fuel with
  | 0 => .error (unexpected line ts)
  | fuel + 1 => do
    let (condition, ts) ← readList fuel line ts
    let (body, ts) ← readList fuel line (← expect "do" line ts)
    .ok (.loop whileSuccess condition body, ← expect "done" line ts)

/-- The name, the items and the body of a loop over items. -/
def readEach (fuel line : Nat) (ts : Tokens) : ScriptRead :=
  match fuel with
  | 0 => .error (unexpected line ts)
  | fuel + 1 =>
    match bareWord? ts with
    | none => .error (unexpected line ts)
    | some name => do
      let (items, ts) :=
        if startsWith "in" (skipNewlines ts.tail) then wordsOf (skipNewlines ts.tail).tail
        else ([[.value ['@'] none true]], ts.tail)
      let (body, ts) ← readList fuel line (← expect "do" line (skipSeparators ts))
      .ok (.each name items body, ← expect "done" line ts)

def readPipes (fuel line : Nat) (ts : Tokens) : ScriptRead :=
  match fuel with
  | 0 => .error (unexpected line ts)
  | fuel + 1 => do
    let (source, ts) ← readCommand fuel line ts
    match ts with
    | (line, .pipe) :: ts =>
      let (sink, ts) ← readPipes fuel line (skipNewlines ts)
      .ok (.piped source sink, ts)
    | ts => .ok (source, ts)

/-- A pipeline, which a `!` may negate. -/
def readPipeline (fuel line : Nat) (ts : Tokens) : ScriptRead :=
  match fuel with
  | 0 => .error (unexpected line ts)
  | fuel + 1 =>
    if startsWith "!" ts then do
      let (c, ts) ← readPipeline fuel line ts.tail
      .ok (.negated c, ts)
    else readPipes fuel line ts

/-- What follows a pipeline: further ones after `&&` and `||`, from left to right. -/
def readAndOr (fuel line : Nat) (first : Script) (ts : Tokens) : ScriptRead :=
  match fuel with
  | 0 => .error (unexpected line ts)
  | fuel + 1 =>
    match ts with
    | (line, .both) :: ts => do
      let (second, ts) ← readPipeline fuel line (skipNewlines ts)
      readAndOr fuel line (.both first second) ts
    | (line, .either) :: ts => do
      let (second, ts) ← readPipeline fuel line (skipNewlines ts)
      readAndOr fuel line (.either first second) ts
    | ts => .ok (first, ts)

/-- Commands with separators between them, up to where the list has to end. -/
def readList (fuel line : Nat) (ts : Tokens) : ScriptRead :=
  match fuel with
  | 0 => .error (unexpected line ts)
  | fuel + 1 =>
    let ts := skipSeparators ts
    if endsList ts then .ok (.nothing, ts)
    else do
      let (first, ts) ← readPipeline fuel line ts
      let (first, ts) ← readAndOr fuel line first ts
      let (second, ts) ← readList fuel line ts
      .ok (.sequence first second, ts)

end

/-! ## Scripts -/

/-- The commands up to a line's end.  Separated commands of one line are read before any of them
runs. -/
def readLine (fuel line : Nat) (ts : Tokens) : ScriptRead :=
  match fuel with
  | 0 => .error (unexpected line ts)
  | fuel + 1 => do
    let (first, ts) ← readPipeline fuel line ts
    let (first, ts) ← readAndOr fuel line first ts
    match ts with
    | [] => .ok (first, [])
    | (_, .newline) :: ts => .ok (first, ts)
    | (_, .semicolon) :: [] => .ok (first, [])
    | (_, .semicolon) :: (_, .newline) :: ts => .ok (first, ts)
    | (_, .background) :: ts => .ok (first, ts)
    | (here, .semicolon) :: ts =>
      let (second, ts) ← readLine fuel here ts
      .ok (.sequence first second, ts)
    | ts => .error (unexpected line ts)

/-- The commands of a script, and the fault that ends them, if there is one. -/
def readLines (fuel line : Nat) (ts : Tokens) : List Script × Option SyntaxFault :=
  match fuel with
  | 0 => ([], none)
  | fuel + 1 =>
    match skipNewlines ts with
    | [] => ([], none)
    | (here, t) :: ts =>
      match readLine (8 * ts.length + 16) line ((here, t) :: ts) with
      | .error e => ([], some e)
      | .ok (c, ts) => (c :: (readLines fuel here ts).1, (readLines fuel here ts).2)

def commandsOf (script : List Char) : List Script × Option SyntaxFault :=
  let ts := scriptTokens script.length 1 script
  readLines (ts.length + 1) 1 ts

end TapSuite.Sandbox
