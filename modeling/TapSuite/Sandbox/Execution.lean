import TapSuite.Sandbox.Shell

/-!
# Running scripts

The commands of a script change the state of a shell, one after the other.  Pipes, subshells and
substitutions run in a shell of their own that starts from the state of the outer one.

    sh file args…        sh -c script name args…
-/

namespace TapSuite.Sandbox

open Process

/-! ## Words -/

/-- Words with a text put to the end of the last one. -/
def putLast (words : List (List Char)) (t : List Char) : List (List Char) :=
  match words.getLast? with
  | some last => words.dropLast ++ [last ++ t]
  | none => [t]

/-- Words with the characters of a value put to their end; blanks begin new words. -/
def putCut (words : List (List Char)) : List Char → List (List Char)
  | [] => words
  | c :: t =>
    if cutsWords c then putCut (if words.getLast? = some [] then words else words ++ [[]]) t
    else putCut (putLast words [c]) t

def putValue (quoted : Bool) (words : List (List Char)) (t : List Char) : List (List Char) :=
  if quoted then putLast words t else putCut words t

/-- Whether a part is a value that may vanish. -/
def WordPart.vanishes : WordPart → Bool
  | .value _ _ quoted => !quoted
  | .output _ quoted => !quoted
  | _ => false

/-- The name and the word in an assignment. -/
def assigned? (w : Word) : Option (String × Word) :=
  match w with
  | .bare t :: rest =>
    (assignment? (String.ofList t)).map fun (name, value) => (name, .bare value.toList :: rest)
  | _ => none

/-- A part whose value stays in one piece. -/
def WordPart.whole : WordPart → WordPart
  | .value name fallback _ => .value name fallback true
  | .output script _ => .output script true
  | p => p

/-- What a shell of its own printed, without the line feeds at its end. -/
def printedText (s : Shell) : List Char :=
  ((Text.Utf8.lossy (streamOf s.writes .out)).reverse.dropWhile (· = '\n')).reverse

/-- The state after an inner shell, some of whose writes are passed on. -/
def Shell.absorb (s inner : Shell) (writes : Writes) : Shell :=
  match inner.code with
  | none => { s with ended := some none }
  | some code => s.perform { writes, code := some code }

def writesTo (stream : Stream) (writes : Writes) : Writes := writes.filter (·.1 = stream)

/-- The state after a command that may end the shell by its failure. -/
def Shell.checked (s : Shell) : Shell :=
  if s.stopsOnFailure ∧ s.status ≠ 0 ∧ s.ended.isNone then s.stop s.status else s

/-- The state with its descriptors led where they led before some redirections. -/
def Shell.restored (s before : Shell) (redirects : List Redirect) : Shell :=
  { s with
    out := before.out
    err := before.err
    input := if redirects.any (·.kind = .input) then before.input else s.input }

/-- The state after assignments alone: only a script in them can fail. -/
def Shell.assigned (s : Shell) (words : List Word) : Shell :=
  let runsScript := words.any fun w => w.any fun p => match p with
    | .output _ _ => true
    | _ => false
  { s with status := if runsScript then s.status else 0 }

/-- What a new shell starts from. -/
structure Outset where
  workspace : Workspace
  environment : List (String × String) := []
  input : Bytes := []

/-- The state of a new shell under a name, with arguments. -/
def Outset.shell (o : Outset) (name : String) (arguments : List String) : Shell where
  workspace := o.workspace
  name := name
  arguments := arguments
  bindings := o.environment
  exported := o.environment
  input := o.input

/-- What a shell inside of a state starts from. -/
def Shell.outset (s : Shell) : Outset := ⟨s.workspace, s.exported, s.input⟩

/-- A new shell with arguments, and the script that it is to run; or what it does without one. -/
def Outset.openShell (o : Outset) : List String → Except Effect (Shell × List Char)
  | [] => .ok ({ o with input := [] }.shell "sh" [], Text.Utf8.lossy o.input)
  | "-e" :: rest =>
    (o.openShell rest).map fun (s, script) => ({ s with stopsOnFailure := true }, script)
  | ["-c"] =>
    .error { writes := say .err "sh: 0: -c requires an argument\n".toList, code := some 2 }
  | "-c" :: script :: rest => .ok (o.shell (rest.headD "sh") rest.tail, script.toList)
  | file :: rest =>
    match o.workspace.readBytes file with
    | .ok bytes => .ok (o.shell file rest, Text.Utf8.lossy bytes)
    | .error .isADirectory => .error {}
    | .error _ =>
      .error
        { writes := say .err ("sh: 0: cannot open " ++ file ++ ": No such file\n").toList
          code := some 2 }

/-! ## Commands -/

/-- The state after a command with its words.  `nested` is the effect of a shell, `again` runs a
text in this one, and `label` names the command that asked for this one. -/
def Shell.command (nested : Outset → List String → Effect) (again : Shell → List Char → Shell)
    (line : Nat) (label : String) (s : Shell) : List String → Shell
  | [] => s
  | name :: args =>
    match name with
    | ":" => { s with status := 0 }
    | "exit" => s.exit line args
    | "kill" => s.kill line args
    | "read" => s.read args
    | "shift" => { s with arguments := s.arguments.tail, status := 0 }
    | "echo" => s.echo line args
    | "test" => s.test line args
    | "[" => s.test line args.dropLast
    | "set" => s.set args
    | "export" => s.publish args
    | "unset" => { s with bindings := s.bindings.filter fun b => !args.contains b.1, status := 0 }
    | "wait" => { s with status := 0 }
    | "eval" => again s (" ".intercalate args).toList
    | "sh" => s.perform (nested s.outset args)
    | _ =>
      match Program.named? name with
      | some p => s.perform (p.run s.workspace s.input args)
      | none => s.refuse line label name

mutual

/-- The words with what a part brings in put to their end. -/
def Shell.putPart (fuel : Nat) (s : Shell) (words : List (List Char)) :
    WordPart → Shell × List (List Char)
  | .bare t => (s, putLast words t)
  | .text t => (s, putLast words t)
  | .value name fallback quoted =>
    let value := (s.value (String.ofList name)).toList
    (s, putValue quoted words (if value.isEmpty then fallback.getD [] else value))
  | .number expression =>
    let lookUp := fun name => ((s.value (String.ofList name)).toInt?).getD 0
    match Arithmetic.value? lookUp expression with
    | some n => (s, putLast words (toString n).toList)
    | none => (s.complain 1 "arithmetic expression: expecting primary" 2 |>.stop 2, words)
  | .output script quoted =>
    match fuel with
    | 0 => (s.stop 2, words)
    | fuel + 1 =>
      let inner := Shell.runText fuel s.inner script
      (s.absorb inner (writesTo .err inner.writes), putValue quoted words (printedText inner))

def Shell.putParts (fuel : Nat) (s : Shell) (words : List (List Char)) :
    List WordPart → Shell × List (List Char)
  | [] => (s, words)
  | p :: rest =>
    match fuel with
    | 0 => (s.stop 2, words)
    | fuel + 1 =>
      let (s, words) := Shell.putPart fuel s words p
      Shell.putParts fuel s words rest

/-- The words that a word of a script stands for: a word of bare values may be none. -/
def Shell.expand (fuel : Nat) (s : Shell) (w : Word) : Shell × List String :=
  match fuel with
  | 0 => (s.stop 2, [])
  | fuel + 1 =>
    if w = [.text [], .value ['@'] none true] ∨ w = [.value ['@'] none true] then (s, s.arguments)
    else
      let (s, words) := Shell.putParts fuel s [] w
      let words := if w.all WordPart.vanishes then words.filter (· ≠ []) else words
      (s, words.map String.ofList)

def Shell.expandAll (fuel : Nat) (s : Shell) : List Word → Shell × List String
  | [] => (s, [])
  | w :: rest =>
    match fuel with
    | 0 => (s.stop 2, [])
    | fuel + 1 =>
      let (s, words) := Shell.expand fuel s w
      let (s, more) := Shell.expandAll fuel s rest
      (s, words ++ more)

/-- The state after the assignments at the start of a command, which are also passed on to shells
inside of this one, and the words that follow them. -/
def Shell.assign (fuel : Nat) (s : Shell) : List Word → Shell × List Word
  | [] => (s, [])
  | w :: rest =>
    match fuel, assigned? w with
    | 0, _ => (s.stop 2, [])
    | _, none => (s, w :: rest)
    | fuel + 1, some (name, value) =>
      let (s, words) := Shell.expand fuel s (value.map WordPart.whole)
      let value := words.headD ""
      Shell.assign fuel { s.bind name value with exported := (name, value) :: s.exported } rest

def Shell.redirectAll (fuel : Nat) (s : Shell) : List Redirect → Shell
  | [] => s
  | r :: rest =>
    match fuel with
    | 0 => s.stop 2
    | fuel + 1 =>
      let (s, words) := Shell.expand fuel s r.target
      Shell.redirectAll fuel (s.redirect r.fd r.kind (words.headD "")) rest

/-- The state after a simple command.  Its redirections, except for those of `exec`, and the
assignments before it last only as long as the command. -/
def Shell.runSimple (fuel : Nat) (s : Shell) (line : Nat) (words : List Word)
    (redirects : List Redirect) : Shell :=
  match fuel with
  | 0 => s.stop 2
  | fuel + 1 =>
    let before := s
    let (s, rest) := Shell.assign fuel s words
    let s := if rest.isEmpty then { s.assigned words with exported := before.exported } else s
    let lends := rest ≠ [] ∧ rest.length < words.length
    let (s, rest) := Shell.expandAll fuel s rest
    let led := Shell.redirectAll fuel s redirects
    let run := Shell.command (Shell.nested fuel) (Shell.runText fuel) line
    if s.ended.isSome then s
    else
      match rest with
      | ["exec"] => { led with status := 0 }
      | "exec" :: rest =>
        let done := run "exec: " led rest
        if done.ended.isSome then done else done.stop done.status
      | rest =>
        let done := (run "" led rest).restored s redirects
        if lends then { done with bindings := before.bindings, exported := before.exported }
        else done

/-- The state after a command whose failure does not end the shell. -/
def Shell.tolerant (fuel : Nat) (s : Shell) (c : Script) : Shell :=
  match fuel with
  | 0 => s.stop 2
  | fuel + 1 =>
    { Shell.run fuel { s with stopsOnFailure := false } c with stopsOnFailure := s.stopsOnFailure }

def Shell.runEach (fuel : Nat) (s : Shell) (name : String) (body : Script) : List String → Shell
  | [] => s
  | item :: rest =>
    match fuel with
    | 0 => s.stop 2
    | fuel + 1 => Shell.runEach fuel (Shell.run fuel (s.bind name item) body) name body rest

/-- The state after a loop whose body last had a status. -/
def Shell.runLoop (fuel : Nat) (s : Shell) (last : Int) (whileSuccess : Bool)
    (condition body : Script) : Shell :=
  match fuel with
  | 0 => s.stop 2
  | fuel + 1 =>
    let s := Shell.tolerant fuel s condition
    if s.ended.isSome then s
    else if (s.status = 0) = whileSuccess then
      let s := Shell.run fuel s body
      Shell.runLoop fuel s s.status whileSuccess condition body
    else { s with status := last }

def Shell.run (fuel : Nat) (s : Shell) (c : Script) : Shell :=
  match fuel with
  | 0 => s.stop 2
  | fuel + 1 =>
    if s.ended.isSome then s
    else
      match c with
      | .nothing => { s with status := 0 }
      | .simple line words redirects => (Shell.runSimple fuel s line words redirects).checked
      | .sequence first .nothing => Shell.run fuel s first
      | .sequence first second => Shell.run fuel (Shell.run fuel s first) second
      | .both first second =>
        let s := Shell.tolerant fuel s first
        if s.status = 0 then Shell.run fuel s second else s
      | .either first second =>
        let s := Shell.tolerant fuel s first
        if s.status = 0 then s else Shell.run fuel s second
      | .negated c =>
        let s := Shell.tolerant fuel s c
        s.judge (s.status ≠ 0)
      | .piped source sink =>
        let before := Shell.run fuel s.inner source
        let s := s.absorb before (writesTo .err before.writes)
        let after := Shell.run fuel { s.inner with input := streamOf before.writes .out } sink
        (s.absorb after after.writes).checked
      | .branch condition yes no =>
        let s := Shell.tolerant fuel s condition
        Shell.run fuel s (if s.status = 0 then yes else no)
      | .loop whileSuccess condition body => Shell.runLoop fuel s 0 whileSuccess condition body
      | .each name items body =>
        let (s, items) := Shell.expandAll fuel s items
        Shell.runEach fuel { s with status := 0 } (String.ofList name) body items
      | .redirected c redirects => 
        (Shell.run fuel (Shell.redirectAll fuel s redirects) c).restored s redirects
      | .subshell c =>
        let inner := Shell.run fuel s.inner c
        (s.absorb inner inner.writes).checked

def Shell.runLines (fuel : Nat) (s : Shell) : List Script → Shell
  | [] => s
  | c :: rest =>
    match fuel with
    | 0 => s.stop 2
    | fuel + 1 => Shell.runLines fuel (Shell.run fuel s c) rest

def Shell.runText (fuel : Nat) (s : Shell) (script : List Char) : Shell :=
  match fuel with
  | 0 => s.stop 2
  | fuel + 1 =>
    let (commands, fault) := commandsOf script
    let s := Shell.runLines fuel s commands
    match fault with
    | none => s
    | some fault =>
      if s.ended.isSome then s
      else (s.complain fault.line ("Syntax error: " ++ fault.message) 2).stop 2

/-- The effect of a new shell with arguments. -/
def Shell.nested (fuel : Nat) (o : Outset) (args : List String) : Effect :=
  match fuel with
  | 0 => { code := some 2 }
  | fuel + 1 =>
    match o.openShell args with
    | .error e => e
    | .ok (s, script) => (Shell.runText fuel s script).effect

end

def shellSteps : Nat := 1000000

def Outset.runShell (o : Outset) (args : List String) : Effect := Shell.nested shellSteps o args

end TapSuite.Sandbox
