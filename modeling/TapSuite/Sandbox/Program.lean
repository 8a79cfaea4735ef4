import TapSuite.Sandbox.Format
import TapSuite.Sandbox.Output
import TapSuite.Workspace.Files

/-!
# Small programs

The programs of the sandbox that do one thing: `cat`, `echo`, `printf`, `true`, `false`, `sleep`.
Only `cat` looks at its standard input.
-/

namespace TapSuite.Sandbox

open Process

/-- A program that does one thing. -/
inductive Program where
  | cat
  | echo
  | printf
  | succeed
  | fail
  | sleep
  deriving DecidableEq

def Program.named? (name : String) : Option Program :=
  match name with
  | "cat" => some .cat
  | "echo" => some .echo
  | "printf" => some .printf
  | "true" => some .succeed
  | "false" => some .fail
  | "sleep" => some .sleep
  | _ => none

/-! ## cat -/

/-- The reason that a program gives for a fault: its text without the number. -/
def reason (fault : Fault) : String :=
  String.ofList (((fault.message.toList.reverse.dropWhile (· ≠ '(')).drop 2).reverse)

/-- The contents of a file, or a complaint about it; `-` is the standard input. -/
def catFile (w : Workspace) (input : Bytes) (path : String) : Effect :=
  if path = "-" then { writes := [(.out, input)] }
  else
    match w.readBytes path with
    | .ok bytes => { writes := [(.out, bytes)] }
    | .error fault =>
      let shown := if path = "" then "''" else path
      { writes := say .err ("cat: " ++ shown ++ ": " ++ reason fault ++ "\n").toList
        code := some 1 }

/-- The contents of files, one after the other.  The standard input is read only once. -/
def catFiles (w : Workspace) (input : Bytes) : List String → Effect
  | [] => {}
  | path :: rest =>
    let first := catFile w input path
    let others := catFiles w (if path = "-" then [] else input) rest
    { writes := first.writes ++ others.writes
      code := if first.code = some 0 then others.code else first.code }

/-! ## echo -/

/-- Whether a word is an option of `echo`: a dash and some of the given letters. -/
def isEchoOption (letters : List Char) (word : String) : Bool :=
  match word.toList with
  | '-' :: c :: t => (c :: t).all letters.contains
  | _ => false

/-- The words of `echo` with spaces between them and a line feed after them. -/
def echoWords (args : List String) : Effect :=
  let options := args.takeWhile (isEchoOption ['n', 'e', 'E'])
  let letters := options.flatMap String.toList
  let text := (" ".intercalate (args.drop options.length)).toList
  let bytes := if letters.contains 'e' then unescape text.length text else Text.Utf8.encode text
  { writes := [(.out, bytes ++ if letters.contains 'n' then [] else [lineFeed])] }

/-! ## printf -/

def printfWords (args : List String) : Effect :=
  match args with
  | [] =>
    { writes := say .err
        "printf: missing operand\nTry 'printf --help' for more information.\n".toList
      code := some 1 }
  | format :: rest => { writes := [(.out, formatAll (rest.length + 1) format.toList rest)] }

/-- What a program does with its standard input and its arguments. -/
def Program.run (w : Workspace) (input : Bytes) (args : List String) : Program → Effect
  | .cat =>
    let paths := args.filter (· ≠ "--")
    catFiles w input (if paths.isEmpty then ["-"] else paths)
  | .echo => echoWords args
  | .printf => printfWords args
  | .succeed => {}
  | .fail => { code := some 1 }
  | .sleep => {}

end TapSuite.Sandbox
