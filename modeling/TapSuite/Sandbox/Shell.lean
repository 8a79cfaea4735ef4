import TapSuite.Sandbox.Arithmetic
import TapSuite.Sandbox.Condition
import TapSuite.Sandbox.Program
import TapSuite.Sandbox.Refusal
import TapSuite.Sandbox.ScriptParser

/-!
# The shell

What a shell remembers between commands, and the commands that it knows itself: `exit`, `kill`,
`read`, `echo`, `test`, `set`, `shift`, `eval` and a few more.  All others are the small programs.
-/

namespace TapSuite.Sandbox

open Process

/-! ## State -/

/-- Where a descriptor leads. -/
inductive Target where
  | stream (s : Stream)
  | file (p : Workspace.Position)
  | discarded
  | closed
  deriving DecidableEq

/-- The state of a shell. -/
structure Shell where
  workspace : Workspace
  /-- The name that the shell runs under. -/
  name : String
  arguments : List String := []
  /-- The values of variables, the latest first. -/
  bindings : List (String × String) := []
  /-- The variables that shells inside of this one see. -/
  exported : List (String × String) := []
  /-- What is left of the standard input. -/
  input : Bytes := []
  out : Target := .stream .out
  err : Target := .stream .err
  status : Int := 0
  /-- Whether a command that fails ends the shell. -/
  stopsOnFailure : Bool := false
  writes : Writes := []
  /-- The shell's exit code once it has ended; a killed one has none. -/
  ended : Option (Option Int) := none

/-- The shell's own process number. -/
def ownNumber : String := "4242"

/-- The value of a parameter; one that is not set is empty. -/
def Shell.value (s : Shell) (name : String) : String :=
  match name with
  | "$" => ownNumber
  | "#" => toString s.arguments.length
  | "?" => toString s.status
  | "0" => s.name
  | "@" => " ".intercalate s.arguments
  | "*" => " ".intercalate s.arguments
  | name =>
    match name.toNat? with
    | some n => (s.arguments[n - 1]?).getD ""
    | none => (s.bindings.lookup name).getD ""

def Shell.bind (s : Shell) (name value : String) : Shell :=
  { s with bindings := (name, value) :: s.bindings }

/-- The state with the status of a verdict. -/
def Shell.judge (s : Shell) (verdict : Bool) : Shell :=
  { s with status := if verdict then 0 else 1 }

/-- The state of a new shell that starts from the state of another one. -/
def Shell.inner (s : Shell) : Shell :=
  { s with out := .stream .out, err := .stream .err, writes := [] }

def Shell.code (s : Shell) : Option Int := s.ended.getD (some s.status)

def Shell.effect (s : Shell) : Effect := { writes := s.writes, code := s.code }

/-- The state of a shell that has ended with a code. -/
def Shell.stop (s : Shell) (code : Int) : Shell :=
  { s with status := code, ended := some (some code) }

/-! ## Descriptors -/

/-- The state after bytes were written where a descriptor leads. -/
def Shell.deliver (s : Shell) (target : Target) (bytes : Bytes) : Shell :=
  match target with
  | .stream stream => { s with writes := s.writes ++ [(stream, bytes)] }
  | .file p =>
    let before := match s.workspace.lookUp? p with
      | some (.file contents) => contents
      | _ => []
    { s with workspace := s.workspace.put p (before ++ bytes) }
  | .discarded => s
  | .closed => s

def Shell.write (s : Shell) (w : Stream × Bytes) : Shell :=
  match w.1 with
  | .out => s.deliver s.out w.2
  | .err => s.deliver s.err w.2

def Shell.perform (s : Shell) (e : Effect) : Shell :=
  { e.writes.foldl Shell.write s with status := e.code.getD 137 }

def Shell.complain (s : Shell) (line : Nat) (text : String) (status : Int) : Shell :=
  s.perform
    { writes := say .err (s.name ++ ": " ++ toString line ++ ": " ++ text ++ "\n").toList
      code := some status }

/-- The state with a descriptor led to a target. -/
def Shell.lead (s : Shell) (fd : Nat) (target : Target) : Shell :=
  match fd with
  | 1 => { s with out := target }
  | 2 => { s with err := target }
  | _ => s

/-- The target that the name of a descriptor stands for. -/
def Shell.copied (s : Shell) : String → Target
  | "1" => s.out
  | "2" => s.err
  | _ => .closed

/-- The state with a descriptor led to a file, which is emptied unless it is added to. -/
def Shell.leadToFile (s : Shell) (fd : Nat) (keeps : Bool) (path : String) : Shell :=
  if path = "/dev/null" then s.lead fd .discarded
  else
    match s.workspace.place path with
    | .error _ => s.lead fd .discarded
    | .ok p =>
      if keeps ∧ (s.workspace.lookUp? p).isSome then s.lead fd (.file p)
      else { s with workspace := s.workspace.put p [] }.lead fd (.file p)

def Shell.redirect (s : Shell) (fd : Nat) (kind : RedirectKind) (target : String) : Shell :=
  match kind with
  | .copy => s.lead fd (s.copied target)
  | .output => s.leadToFile fd false target
  | .append => s.leadToFile fd true target
  | .input => { s with input := (s.workspace.readBytes target).toOption.getD [] }

/-! ## kill -/

/-- The names of the signals that end a process, with their numbers. -/
def deadlySignals : List (String × String) :=
  [("1", "HUP"), ("2", "INT"), ("3", "QUIT"), ("4", "ILL"), ("5", "TRAP"), ("6", "ABRT"),
    ("7", "BUS"), ("8", "FPE"), ("9", "KILL"), ("10", "USR1"), ("11", "SEGV"), ("12", "USR2"),
    ("13", "PIPE"), ("14", "ALRM"), ("15", "TERM")]

/-- Whether a signal, by number or by name, ends a process. -/
def isDeadly (signal : String) : Bool :=
  deadlySignals.any fun (number, name) => signal = number || signal = name || signal = "SIG" ++ name

/-- The signal and the processes that the arguments of `kill` name. -/
def killArguments (args : List String) : String × List String :=
  match args with
  | "-s" :: signal :: rest => (signal, rest)
  | first :: rest =>
    match first.toList with
    | '-' :: signal => (String.ofList signal, rest)
    | _ => ("TERM", first :: rest)
  | [] => ("TERM", [])

def Shell.kill (s : Shell) (line : Nat) (args : List String) : Shell :=
  let (signal, processes) := killArguments args
  if processes.contains ownNumber then
    if isDeadly signal then { s with ended := some none } else { s with status := 0 }
  else s.complain line "kill: No such process" 1

/-! ## Small commands -/

/-- What `echo` of the shell prints: escapes always count, and `\c` ends the text. -/
def shellEcho (args : List String) : Effect :=
  let (words, feed) := match args with
    | "-n" :: rest => (rest, [])
    | args => (args, [lineFeed])
  let text := (" ".intercalate words).toList
  let (kept, cut) := cutText text
  { writes := [(.out, unescape kept.length kept ++ if cut then [] else feed)] }

def Shell.echo (s : Shell) (line : Nat) (args : List String) : Shell :=
  if s.out = .closed then s.complain line "echo: echo: I/O error" 1 else s.perform (shellEcho args)

/-- The state after `exit`; codes count modulo 256. -/
def Shell.exit (s : Shell) (line : Nat) (args : List String) : Shell :=
  match args with
  | [] => s.stop s.status
  | n :: _ =>
    match n.toNat? with
    | some n => s.stop (n % 256 : Nat)
    | none => (s.complain line ("exit: Illegal number: " ++ n) 2).stop 2

def cutsWords (c : Char) : Bool := c = ' ' || c = '\t' || c = '\n'

/-- The first word of a text and what follows it. -/
def firstWord (t : List Char) : List Char × List Char :=
  let t := t.dropWhile cutsWords
  (t.takeWhile (!cutsWords ·), (t.dropWhile (!cutsWords ·)).dropWhile cutsWords)

/-- The state with the words of a line for some variables; the last one gets what is left. -/
def Shell.bindWords (s : Shell) (line : List Char) : List String → Shell
  | [] => s
  | [name] =>
    let t := line.dropWhile cutsWords
    s.bind name (String.ofList (t.reverse.dropWhile cutsWords).reverse)
  | name :: rest =>
    (s.bind name (String.ofList (firstWord line).1)).bindWords (firstWord line).2 rest

/-- The state after `read`, which succeeds if its line is ended. -/
def Shell.read (s : Shell) (names : List String) : Shell :=
  let line := s.input.takeWhile (· ≠ lineFeed)
  let rest := s.input.dropWhile (· ≠ lineFeed)
  let names := names.filter (· ≠ "-r")
  ({ s with input := rest.drop 1 }.bindWords (Text.Utf8.lossy line) names).judge (!rest.isEmpty)

def Shell.test (s : Shell) (line : Nat) (args : List String) : Shell :=
  match condition? s.workspace args with
  | some verdict => s.judge verdict
  | none => s.complain line "test: unexpected operator" 2

def Shell.set (s : Shell) : List String → Shell
  | "-e" :: rest => { s with stopsOnFailure := true }.set rest
  | "+e" :: rest => { s with stopsOnFailure := false }.set rest
  | "--" :: rest => { s with arguments := rest, status := 0 }
  | _ => { s with status := 0 }

/-- The value in an assignment `name=value`, with its name. -/
def assignment? (word : String) : Option (String × String) :=
  let name := word.toList.takeWhile (· ≠ '=')
  match name, word.toList.dropWhile (· ≠ '=') with
  | c :: t, _ :: value =>
    if isNameStart c ∧ t.all isNamePart then some (String.ofList (c :: t), String.ofList value)
    else none
  | _, _ => none

def Shell.publish (s : Shell) : List String → Shell
  | [] => { s with status := 0 }
  | word :: rest =>
    match assignment? word with
    | some (name, value) =>
      { s.bind name value with exported := (name, value) :: s.exported }.publish rest
    | none => { s with exported := (word, s.value word) :: s.exported }.publish rest

/-- What the shell says about a fault of a command, without its number. -/
def refusalText : Fault → String
  | .notFound => "not found"
  | .notADirectory => "not found"
  | fault => reason fault

/-- The fault of a command that the shell does not know.  A name without letters is looked for like
any other, and found to be a directory. -/
def Shell.refusal (s : Shell) (name : String) : Fault :=
  if name = "" then .accessDenied else Sandbox.refusal s.workspace name

/-- The state after a command that the shell does not know.  `label` names the command that asked
for it.  Only a path can be found and refused. -/
def Shell.refuse (s : Shell) (line : Nat) (label name : String) : Shell :=
  let fault := s.refusal name
  s.complain line (label ++ name ++ ": " ++ refusalText fault)
    (if fault = .accessDenied ∧ name.toList.contains '/' then 126 else 127)

end TapSuite.Sandbox
