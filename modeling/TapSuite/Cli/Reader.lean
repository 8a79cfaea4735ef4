import TapSuite.Cli.Stop

/-!
# Reading a level of the command line

Words are read from left to right.

    --name value   --name=value   -n value   -nvalue   -n=value   --flag

A value that stands in a word of its own may not look like an option.  An option is settled, that
is, its value is looked at, only when the next option comes or the level ends; so a mistake in a
later word can come first.  After `--` no word is an option.
-/

namespace TapSuite.Cli

/-! ## Values -/

/-- The number that digits write after a number so far. -/
def countFrom (n : Nat) : List Char → Except CountFault Nat
  | [] => .ok n
  | c :: t =>
    if c.isDigit = false then .error .invalidDigit
    else
      let n := 10 * n + (c.toNat - '0'.toNat)
      if UInt64.size ≤ n then .error .tooLarge else countFrom n t

/-- The number that a text writes; a plus sign may stand before its digits. -/
def count? (value : List Char) : Except CountFault Nat :=
  match value with
  | [] => .error .empty
  | ['+'] => .error .invalidDigit
  | '+' :: t => countFrom 0 t
  | t => countFrom 0 t

/-- The mistake in a value, if it has one. -/
def valueError? (o : Opt) (value : String) : Option UsageError :=
  match o.kind with
  | .path => if value.isEmpty then some (.missingValue o) else none
  | .count =>
    match count? value.toList with
    | .ok _ => none
    | .error fault => some (.invalidCount o value fault)
  | _ => none

/-! ## State -/

/-- What has been read of a level: the settled options with their values, and the last option with
the value that followed it, if one did. -/
structure Reading where
  given : List (String × String) := []
  pending : Option (Opt × Option String) := none
  deriving DecidableEq

/-- Whether the last word was an option that asks for a value. -/
def Reading.awaits (r : Reading) : Bool :=
  match r.pending with
  | some (_, none) => true
  | _ => false

/-- The reading with one more option settled.  No option can be given twice. -/
def Reading.record (l : Level) (r : Reading) (o : Opt) (value : String) : Except Stop Reading :=
  if (r.given.lookup o.long).isSome then .error (.usage { error := .repeated o, level := l })
  else
    match valueError? o value with
    | some e => .error (.usage (valueComplaint l e))
    | none => .ok { given := r.given ++ [(o.long, value)] }

/-- The reading with its last option settled. -/
def Reading.settle (l : Level) (r : Reading) : Except Stop Reading :=
  match r.pending with
  | none => .ok r
  | some (o, none) => .error (.usage (valueComplaint l (.missingValue o)))
  | some (o, some value) => r.record l o value

/-- The names of the options that a reading would have if its last option were settled, whatever
the value.  An option that is given twice is none of them. -/
def Reading.names (r : Reading) : List String :=
  let settled := r.given.map (·.1)
  match r.pending with
  | some (o, some _) =>
    if settled.contains o.long then settled.filter (· ≠ o.long) else settled ++ [o.long]
  | _ => settled

/-! ## Words -/

/-- An option with the value in its own word, if there is one. -/
def Reading.option (l : Level) (o : Opt) (value : Option String) (r : Reading) :
    Except Stop Reading :=
  match r.settle l with
  | .error e => .error e
  | .ok r =>
    match o.kind, value with
    | .help, _ => .error (.help l)
    | .version, _ => .error .version
    | .flag, _ => r.record l o ""
    | _, some value => r.record l o value
    | _, none => .ok { r with pending := some (o, none) }

/-- A word cut at its first `=`. -/
def cutEquals (word : List Char) : List Char × Option String :=
  (word.takeWhile (· ≠ '='),
    match word.dropWhile (· ≠ '=') with
    | [] => none
    | _ :: value => some (String.ofList value))

/-- The complaint about an unknown option before some words.  Its usage line names the options so
far, and the one that may have been meant. -/
def Reading.unknownOption (l : Level) (r : Reading) (name : String) (rest : List String) :
    Complaint :=
  let tip? := optionTip? l name rest
  let meant := match tip? with
    | some (.option similar) => if r.names.contains similar then [] else [similar]
    | _ => []
  { error := .unknownArgument ("--" ++ name), level := l, tip?
    usage? := some ((r.names ++ meant).filterMap fun n => l.long? n.toList) }

/-- The complaint about a value for a flag.  Its usage line names the settled options and the
flag. -/
def Reading.unneededValue (l : Level) (r : Reading) (o : Opt) (value : String) : Complaint :=
  let settled := r.given.filterMap fun (n, _) => l.long? n.toList
  { error := .unneededValue o value, level := l
    usage? := some (settled ++ if settled.contains o then [] else [o]) }

/-- The rest of a word that starts with `--`, before some words. -/
def Reading.long (l : Level) (word : List Char) (rest : List String) (r : Reading) :
    Except Stop Reading :=
  let (name, value) := cutEquals word
  match l.long? name, value with
  | none, _ => .error (.usage (r.unknownOption l (String.ofList name) rest))
  | some o, some value =>
    if o.takesValue then r.option l o (some value)
    else .error (.usage (r.unneededValue l o value))
  | some o, none => r.option l o none

/-- The value that follows a short option in its word, an equals sign between them or not. -/
def attached : List Char → Option String
  | [] => none
  | '=' :: value => some (String.ofList value)
  | value => some (String.ofList value)

/-- The rest of a word that starts with a single `-`. -/
def Reading.short (l : Level) (r : Reading) : List Char → Except Stop Reading
  | [] => .ok r
  | c :: rest =>
    match l.short? c with
    | none =>
      .error (.usage { error := .unknownArgument (String.ofList ['-', c]), level := l })
    | some o =>
      if o.takesValue then r.option l o (attached rest)
      else
        match r.option l o none with
        | .error e => .error e
        | .ok r => short l r rest

/-- The complaint about a word that is neither an option nor a value.  `trailing` says that it
stands after `--`. -/
def strayWord (l : Level) (trailing : Bool) (word : String) : Complaint :=
  if l.subcommands.isEmpty then { error := .unknownArgument word, level := l }
  else if trailing ∧ (l.subcommands.lookup word).isSome then
    { error := .unknownArgument word, level := l, tip? := some (.subcommandAfterDashes word) }
  else { error := .unknownSubcommand word, level := l, tip? := subcommandTip? l word }

/-- A word that is no subcommand, before some words. -/
def Reading.word (l : Level) (r : Reading) (word : String) (rest : List String) :
    Except Stop Reading :=
  match word.toList with
  | '-' :: '-' :: name => r.long l name rest
  | '-' :: c :: letters => r.short l (c :: letters)
  | _ =>
    match r.pending with
    | some (o, none) => .ok { r with pending := some (o, some word) }
    | _ => .error (.usage (strayWord l false word))

/-! ## Levels -/

/-- A level read: its settled options, and the subcommand that ended it with the words after it. -/
structure LevelReading where
  reading : Reading
  subcommand : Option (Level × List String) := none
  deriving DecidableEq

/-- The words of a level.  What follows a subcommand's name is left for the next level. -/
def readLevel (l : Level) (r : Reading) : List String → Except Stop LevelReading
  | [] => .ok ⟨r, none⟩
  | word :: rest =>
    match if r.awaits then none else l.subcommands.lookup word with
    | some level => .ok ⟨r, some (level, rest)⟩
    | none =>
      if word = "--" then
        match rest with
        | [] => .ok ⟨r, none⟩
        | stray :: _ => .error (.usage (strayWord l true stray))
      else
        match r.word l word rest with
        | .error e => .error e
        | .ok r => readLevel l r rest

end TapSuite.Cli
