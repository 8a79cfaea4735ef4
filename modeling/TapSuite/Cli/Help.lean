import TapSuite.Cli.Stop
import TapSuite.Locale.Basic
import TapSuite.Text.Pad

/-!
# Help texts

A help text says what a level is for, how it is called, and which subcommands and options it has.

      -c, --config <CONFIG>  Path to the configuration file. [default: SuiteRunner.toml]

Names stand in a column that is as wide as the longest of them.
-/

namespace TapSuite.Cli

open Text

def version : String := "0.1.0"

/-! ## Parts -/

def helpAbout : String := "Print this message or the help of the given subcommand(s)"

def Level.about (locale : String) : Level → String
  | .program => Locale.say locale "cli.about"
  | .run => Locale.say locale "cli.cmd_run_about"
  | .init => Locale.say locale "cli.cmd_init_about"
  | .help => helpAbout

def Opt.names (o : Opt) : Rich :=
  (match o.short with
    | some c => [⟨.literal, String.ofList ['-', c]⟩, plainSpan ", "]
    | none => [plainSpan "    "]) ++
  [⟨.literal, "--" ++ o.long⟩, plainSpan (if o.takesValue then " <" ++ o.valueName ++ ">" else "")]

def Opt.describe (locale : String) (o : Opt) : String :=
  match o.kind with
  | .help => "Print help"
  | .version => "Print version"
  | _ =>
    Locale.say locale o.about ++
      match o.default? with
      | some value => " [default: " ++ value ++ "]"
      | none => ""

/-- Lines with a name and a text each, the texts in one column. -/
def twoColumns (rows : List (Rich × String)) : Rich :=
  let width := (rows.map (·.1.text.length)).foldl max 0
  rows.flatMap fun (name, text) =>
    let gap := alignLeft (width - name.text.length) ""
    plainSpan "  " :: name ++ [plainSpan (gap ++ "  " ++ text ++ "\n")]

/-- A list of names under a title; nothing if it is empty. -/
def titled (title : String) (rows : List (Rich × String)) : Rich :=
  if rows.isEmpty then []
  else plainSpan "\n" :: ⟨.title, title⟩ :: plainSpan "\n" :: twoColumns rows

/-- What the help subcommand takes. -/
def Level.words : Level → List (Rich × String)
  | .help => [([plainSpan "[COMMAND]..."], "Print help for the subcommand(s)")]
  | _ => []

/-- The subcommands of a level and what they are for. -/
def Level.commands (locale : String) (l : Level) : List (Rich × String) :=
  l.subcommands.map fun (name, level) => ([⟨.literal, name⟩], level.about locale)

/-! ## Texts -/

def Level.helpPage (locale : String) (l : Level) : Rich :=
  [plainSpan (l.about locale ++ "\n\n")] ++ l.usageLine [] ++ [plainSpan "\n"] ++
    titled "Commands:" (l.commands locale) ++ titled "Arguments:" l.words ++
    titled "Options:" (l.options.map fun o => (o.names, o.describe locale))

def Level.helpText (locale : String) (l : Level) : String := (l.helpPage locale).text

end TapSuite.Cli
