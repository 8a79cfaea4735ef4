import TapSuite.Cli.Grammar
import TapSuite.Cli.Rich
import TapSuite.Text.Similarity

/-!
# Command lines that name no command

Help and version end the reading of a command line, and so do mistakes.  A complaint about a mistake
may come with a tip, and it says how the level is called where that helps:

    error: unexpected argument '--job' found

      tip: a similar argument exists: '--jobs'

    Usage: suite-runner run --jobs <JOBS>

    For more information, try '--help'.
-/

namespace TapSuite.Cli

/-! ## Mistakes -/

/-- Why a text is no number below 2^64. -/
inductive CountFault where
  | empty
  | invalidDigit
  | tooLarge
  deriving DecidableEq

def CountFault.message : CountFault → String
  | .empty => "cannot parse integer from empty string"
  | .invalidDigit => "invalid digit found in string"
  | .tooLarge => "number too large to fit in target type"

/-- A mistake on a command line. -/
inductive UsageError where
  | unknownArgument (word : String)
  | unknownSubcommand (word : String)
  | missingValue (option : Opt)
  | unneededValue (option : Opt) (value : String)
  | invalidCount (option : Opt) (value : String) (fault : CountFault)
  | repeated (option : Opt)
  deriving DecidableEq

def UsageError.message : UsageError → Rich
  | .unknownArgument word =>
    [plainSpan "unexpected argument '", ⟨.invalid, word⟩, plainSpan "' found"]
  | .unknownSubcommand word =>
    [plainSpan "unrecognized subcommand '", ⟨.invalid, word⟩, plainSpan "'"]
  | .missingValue o =>
    [plainSpan "a value is required for '", ⟨.invalid, o.usage⟩,
      plainSpan "' but none was supplied"]
  | .unneededValue o value =>
    [plainSpan "unexpected value '", ⟨.invalid, value⟩, plainSpan "' for '", ⟨.literal, o.usage⟩,
      plainSpan "' found; no more were expected"]
  | .invalidCount o value fault =>
    [plainSpan "invalid value '", ⟨.invalid, value⟩, plainSpan "' for '", ⟨.literal, o.usage⟩,
      plainSpan ("': " ++ fault.message)]
  | .repeated o =>
    [plainSpan "the argument '", ⟨.invalid, o.usage⟩, plainSpan "' cannot be used multiple times"]

/-! ## Tips -/

/-- What the user may have meant. -/
inductive Tip where
  | option (name : String)
  /-- An option of a subcommand that comes later. -/
  | optionOf (subcommand name : String)
  | subcommands (names : List String)
  /-- A subcommand that is none because of the `--` before it. -/
  | subcommandAfterDashes (name : String)
  deriving DecidableEq

/-- Words between single quotes and with commas between them. -/
def quotedNames : List String → Rich
  | [] => []
  | [name] => [plainSpan "'", ⟨.valid, name⟩, plainSpan "'"]
  | name :: rest => plainSpan "'" :: ⟨.valid, name⟩ :: plainSpan "', " :: quotedNames rest

def Tip.message : Tip → Rich
  | .option name => plainSpan "a similar argument exists: " :: quotedNames ["--" ++ name]
  | .optionOf subcommand name =>
    quotedNames [subcommand ++ " --" ++ name] ++ [plainSpan " exists"]
  | .subcommands names =>
    plainSpan
      (if names.length = 1 then "a similar subcommand exists: "
        else "some similar subcommands exist: ") :: quotedNames names
  | .subcommandAfterDashes name =>
    plainSpan "subcommand " :: quotedNames [name] ++
      [plainSpan " exists; to use it, remove the '", ⟨.invalid, "--"⟩, plainSpan "' before it"]

/-- The tip for an unknown option of a level, before some words. -/
def optionTip? (l : Level) (name : String) (rest : List String) : Option Tip :=
  match (Text.similarTo name (l.options.map (·.long))).getLast? with
  | some similar => some (.option similar)
  | none =>
    let later := l.subcommands.filterMap fun (word, inner) => do
      let similar ← (Text.similarTo name (inner.options.map (·.long))).getLast?
      let place ← rest.findIdx? (· = word)
      some (place, Tip.optionOf word similar)
    (later.mergeSort fun a b => decide (a.1 ≤ b.1)).head?.map (·.2)

/-- The tip for an unknown subcommand of a level. -/
def subcommandTip? (l : Level) (word : String) : Option Tip :=
  match Text.similarTo word (l.subcommands.map (·.1)) with
  | [] => none
  | names => some (.subcommands names)

/-! ## Complaints -/

/-- A mistake, and what is said about it. -/
structure Complaint where
  error : UsageError
  /-- The level of the mistake. -/
  level : Level
  tip? : Option Tip := none
  /-- The options that the usage line names, if there is one.  Without any it names what the level
  may be given. -/
  usage? : Option (List Opt) := some []
  deriving DecidableEq

/-- The complaint about the value of an option, which comes without a usage line. -/
def valueComplaint (l : Level) (e : UsageError) : Complaint := ⟨e, l, none, none⟩

def Opt.inUsage (o : Opt) : Rich :=
  [plainSpan " ", ⟨.literal, "--" ++ o.long⟩,
    plainSpan (if o.takesValue then " <" ++ o.valueName ++ ">" else "")]

/-- How a level is called, with some options or with whatever it may be given. -/
def Level.usageLine (l : Level) (used : List Opt) : Rich :=
  [⟨.title, "Usage:"⟩, plainSpan " ", ⟨.literal, l.call⟩] ++
    if used.isEmpty then [plainSpan l.operands] else used.flatMap Opt.inUsage

/-- The advice to ask for help, where a level has an option for it. -/
def Level.advice (l : Level) : Rich :=
  if l.options.isEmpty then []
  else [plainSpan "\n\nFor more information, try '", ⟨.literal, "--help"⟩, plainSpan "'."]

def Complaint.text (c : Complaint) : Rich :=
  [⟨.error, "error:"⟩, plainSpan " "] ++ c.error.message ++
    (match c.tip? with
      | some tip => [plainSpan "\n\n  ", ⟨.valid, "tip:"⟩, plainSpan " "] ++ tip.message
      | none => []) ++
    (match c.usage? with
      | some used => plainSpan "\n\n" :: c.level.usageLine used
      | none => []) ++
    c.level.advice ++ [plainSpan "\n"]

/-- Why a command line names no command. -/
inductive Stop where
  | help (level : Level)
  | version
  | usage (complaint : Complaint)
  deriving DecidableEq

end TapSuite.Cli
