import TapSuite.Cli.Reader
import TapSuite.Config.Basic

/-!
# Arguments

What a command line asks for: to run the suites, or to write a file with settings.  Without a
subcommand the suites are run with all settings as they are.  The language of messages can be given
on both levels; the deeper one counts.
-/

namespace TapSuite.Cli

structure RunArguments where
  config : String := defaultConfig
  /-- Whether the file with the settings was named. -/
  configNamed : Bool := false
  overrides : Overrides := {}
  deriving DecidableEq

/-- What a command line asks for. -/
inductive Request where
  | bare
  | run (arguments : RunArguments)
  | init (config : String) (nonInteractive : Bool)
  deriving DecidableEq

structure Arguments where
  language : Option String
  request : Request
  deriving DecidableEq

def countValue (value : String) : Option UInt64 :=
  match count? value.toList with
  | .ok n => some (UInt64.ofNat n)
  | .error _ => none

def Reading.value? (r : Reading) (o : Opt) : Option String := r.given.lookup o.long

def Reading.overrides (r : Reading) : Overrides where
  suitesDir := r.value? suitesDirOpt
  suffix := r.value? suffixOpt
  command := r.value? commandOpt
  jobs := (r.value? jobsOpt).bind countValue
  reporter := r.value? reporterOpt
  reportDir := r.value? reportDirOpt

def Reading.runArguments (r : Reading) : RunArguments where
  config := (r.value? configOpt).getD defaultConfig
  configNamed := (r.value? configOpt).isSome
  overrides := r.overrides

def Reading.request (r : Reading) : Level → Request
  | .run => .run r.runArguments
  | .init => .init ((r.value? configOpt).getD defaultConfig) (r.value? nonInteractiveOpt).isSome
  | _ => .bare

/-- The level whose help some words ask for. -/
def helpTopic (l : Level) : List String → Stop
  | [] => .help l
  | word :: rest =>
    match l.subcommands.lookup word with
    | some level => helpTopic level rest
    | none => .usage { error := .unknownSubcommand word, level := l }

/-- The deepest level of a command line, read to its end. -/
def readSubcommand (l : Level) (words : List String) : Except Stop Reading :=
  if l = .help then .error (helpTopic .program words)
  else
    match readLevel l {} words with
    | .error e => .error e
    | .ok read => read.reading.settle l

def readWords (words : List String) : Except Stop Arguments :=
  match readLevel .program {} words with
  | .error e => .error e
  | .ok ⟨outer, none⟩ => (outer.settle .program).map fun outer => ⟨outer.value? langOpt, .bare⟩
  | .ok ⟨outer, some (level, rest)⟩ =>
    match readSubcommand level rest with
    | .error e => .error e
    | .ok inner => (outer.settle .program).map fun outer =>
      ⟨(inner.value? langOpt).or (outer.value? langOpt), inner.request level⟩

/-- A command line; its first word is the program's name. -/
def Arguments.read (words : List String) : Except Stop Arguments := readWords (words.drop 1)

end TapSuite.Cli
