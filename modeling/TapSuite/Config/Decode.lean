import TapSuite.Config.Basic
import TapSuite.Text.Quoted
import TapSuite.Toml.Parser

/-!
# Settings in a TOML table

Every setting is optional and has its default; unknown keys have no effect.  Entries are checked in
the order of their keys, and the first one with a value of a wrong type or range is the error.

    decode t = .ok c → c.suffix = the text at "suffix" in t, or ".js"

A number too large for any type is an error too, wherever it stands.
-/

namespace TapSuite

open Toml

/-! ## Errors -/

/-- What a setting wants to be. -/
inductive Wanted where
  | text
  | path
  | count
  | exitCode
  | reporter
  deriving DecidableEq

/-- The name of what is wanted, in messages. -/
def Wanted.phrase : Wanted → String
  | .text => "a string"
  | .path => "path string"
  | .count => "usize"
  | .exitCode => "u8"
  | .reporter => "struct ReporterConfig"

/-- Why a document gives no settings. -/
inductive DecodeError where
  /-- The text is no document, or holds a number of no type. -/
  | malformed
  | longKey
  | wrongType (found : String) (wanted : Wanted)
  | outOfRange (n : Int) (wanted : Wanted)
  deriving DecidableEq

def DecodeError.message : DecodeError → String
  | .malformed => "TOML parse error"
  | .longKey => "recursion limit\n"
  | .wrongType found wanted =>
    "TOML parse error: invalid type: " ++ found ++ ", expected " ++ wanted.phrase
  | .outOfRange n wanted =>
    "TOML parse error: invalid value: integer `" ++ toString n ++ "`, expected " ++ wanted.phrase

/-! ## Describing values -/

/-- Whether an integer fits into a signed word of some width. -/
def fitsSigned (bits : Nat) (n : Int) : Bool :=
  let half : Int := Nat.pow 2 (bits - 1)
  decide (-half ≤ n ∧ n < half)

/-- Whether an integer fits into an unsigned word of some width. -/
def fitsUnsigned (bits : Nat) (n : Int) : Bool := decide (0 ≤ n ∧ n < Nat.pow 2 bits)

/-- Whether an integer fits into a word of 64 bits. -/
def fitsWord (n : Int) : Bool := fitsSigned 64 n || fitsUnsigned 64 n

/-- The description of an integer by the narrowest type that holds it; none for one of no type. -/
def describeInteger (n : Int) : Option String :=
  let text := "integer `" ++ toString n ++ "`"
  if fitsWord n then some text
  else if fitsSigned 128 n then some (text ++ " as i128")
  else if fitsUnsigned 128 n then some (text ++ " as u128")
  else none

/-- The description of a value in messages; none for a number of no type. -/
def describe : Value → Option String
  | .text s => some ("string " ++ Text.quoted s)
  | .integer n => describeInteger n
  | .valueless => none
  | .real x => x.text?.map fun s => "floating point `" ++ s ++ "`"
  | .boolean b => some ("boolean `" ++ (if b then "true" else "false") ++ "`")
  | .moment _ => some "map"
  | .list _ => some "sequence"
  | .table _ => some "map"

mutual
/-- Whether all numbers in a value have a type. -/
def isTyped : Value → Bool
  | .integer n => (describeInteger n).isSome
  | .valueless => false
  | .real x => x.text?.isSome
  | .list items => allTyped items
  | .table entries => allEntriesTyped entries
  | _ => true

def allTyped : List Value → Bool
  | [] => true
  | v :: rest => isTyped v && allTyped rest

def allEntriesTyped : List (String × Value) → Bool
  | [] => true
  | (_, v) :: rest => isTyped v && allEntriesTyped rest
end

/-! ## Reading values -/

/-- The error for a value of a wrong type. -/
def mismatch {α : Type} (v : Value) (wanted : Wanted) : Except DecodeError α :=
  match describe v with
  | some found => .error (.wrongType found wanted)
  | none => .error .malformed

def readText (wanted : Wanted) : Value → Except DecodeError String
  | .text s => .ok s
  | v => mismatch v wanted

/-- The number below a limit that a value is. -/
def readBelow (limit : Nat) (wanted : Wanted) : Value → Except DecodeError Nat
  | .integer n =>
    if 0 ≤ n ∧ n < limit then .ok n.toNat
    else if fitsWord n then .error (.outOfRange n wanted)
    else mismatch (.integer n) wanted
  | v => mismatch v wanted

def readCount (v : Value) : Except DecodeError UInt64 :=
  (readBelow UInt64.size .count v).map UInt64.ofNat

def readExitCode (v : Value) : Except DecodeError UInt8 :=
  (readBelow UInt8.size .exitCode v).map UInt8.ofNat

/-- A value that only has to be of some type. -/
def readAny (v : Value) : Except DecodeError Unit :=
  if isTyped v then .ok () else .error .malformed

/-! ## Reading tables -/

/-- The entries of a table in the order of their keys. -/
def sortedEntries (t : Table) : Table := t.mergeSort fun a b => !decide (b.1 < a.1)

/-- The first error that a check finds among the entries of a table, in the order of their keys. -/
def checkEntries (check : String → Value → Except DecodeError Unit) (t : Table) :
    Except DecodeError Unit :=
  (sortedEntries t).forM fun (key, v) => check key v

/-- The value at a key, or the default if the table has no such key. -/
def fieldOr {α : Type} (read : Value → Except DecodeError α) (key : String) (dflt : α)
    (t : Table) : Except DecodeError α :=
  match t.lookup key with
  | none => .ok dflt
  | some v => read v

/-- Reads a value and forgets it. -/
def only {α : Type} (read : Value → Except DecodeError α) (v : Value) : Except DecodeError Unit :=
  (read v).map fun _ => ()

def checkReporterEntry (key : String) : Value → Except DecodeError Unit :=
  if key = "name" ∨ key = "report_filename" then only (readText .text)
  else if key = "report_dir" then only (readText .path)
  else readAny

/-- The item at a place of a list, or the default if the list is shorter. -/
def itemOr {α : Type} (read : Value → Except DecodeError α) (place : Nat) (dflt : α)
    (items : List Value) : Except DecodeError α :=
  match items[place]? with
  | none => .ok dflt
  | some v => read v

/-- The reporter settings that a value is: a table, or a list of the settings in their order.  A
moment counts as a table without settings. -/
def readReporter : Value → Except DecodeError ReporterConfig
  | .table t => do
    checkEntries checkReporterEntry t
    let name ← fieldOr (readText .text) "name" ({} : ReporterConfig).name t
    let reportDir ← fieldOr (readText .path) "report_dir" ({} : ReporterConfig).reportDir t
    let reportFilename ←
      fieldOr (readText .text) "report_filename" ({} : ReporterConfig).reportFilename t
    .ok { name, reportDir, reportFilename }
  | .list items => do
    let name ← itemOr (readText .text) 0 ({} : ReporterConfig).name items
    let reportDir ← itemOr (readText .path) 1 ({} : ReporterConfig).reportDir items
    let reportFilename ← itemOr (readText .text) 2 ({} : ReporterConfig).reportFilename items
    .ok { name, reportDir, reportFilename }
  | .moment _ => .ok {}
  | v => mismatch v .reporter

def checkEntry (key : String) : Value → Except DecodeError Unit :=
  if key = "language" ∨ key = "suffix" ∨ key = "command" then only (readText .text)
  else if key = "suites_dir" then only (readText .path)
  else if key = "jobs" then only readCount
  else if key = "failure_exit_code" then only readExitCode
  else if key = "reporter" then only readReporter
  else readAny

/-- The settings that a document's table gives. -/
def Config.decode (t : Table) : Except DecodeError Config := do
  checkEntries checkEntry t
  let language ← fieldOr (fun v => (readText .text v).map some) "language" none t
  let suitesDir ← fieldOr (readText .path) "suites_dir" ({} : Config).suitesDir t
  let suffix ← fieldOr (readText .text) "suffix" ({} : Config).suffix t
  let command ← fieldOr (readText .text) "command" ({} : Config).command t
  let jobs ← fieldOr readCount "jobs" ({} : Config).jobs t
  let failureExitCode ← fieldOr readExitCode "failure_exit_code" ({} : Config).failureExitCode t
  let reporter ← fieldOr readReporter "reporter" {} t
  .ok { language, suitesDir, suffix, command, jobs, failureExitCode, reporter }

/-- The error for a text that is no document. -/
def DecodeError.ofFlaw : Flaw → DecodeError
  | .malformed => .malformed
  | .longKey => .longKey

def Config.read (text : String) : Except DecodeError Config :=
  match parse text with
  | .error flaw => .error (.ofFlaw flaw)
  | .ok t => Config.decode t

end TapSuite
