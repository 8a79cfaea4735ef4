import TapSuite.Config.Printer
import TapSuite.Proofs.Config.ExitCode

/-!
# Written settings are read back

The document of settings gives the settings back, whatever texts they hold: each text in the quotes
chosen for it, a language only if there is one, and the reporter's settings in a table of their own.

    Config.read c.render = .ok c
    Config.ofText c.render origin = (c.validate origin).map fun _ => c              (read_render)

Whether the settings meet the requirements is asked after they were read.
-/

namespace TapSuite

open Toml

/-! ## Lines -/

def textField (key s : String) (h : BareKey key) : Field := ⟨key, h, .ofText s⟩

def numberField (key : String) (n : Nat) (h : BareKey key) : Field := ⟨key, h, .ofInteger n⟩

theorem toList_equals : " = ".toList = [' ', '=', ' '] := rfl

theorem toList_feed : "\n".toList = ['\n'] := rfl

theorem toList_textLine {key : String} (h : BareKey key) (s : String) :
    (textLine key s).toList = (textField key s h).line := by
  simp only [textLine, textField, Field.line, Written.text_ofText, lineOf, String.toList_append,
    List.append_assoc, toList_equals, toList_feed, List.cons_append, List.nil_append]

theorem toList_numberLine {key : String} (h : BareKey key) (n : Nat) :
    (numberLine key n).toList = (numberField key n h).line := by
  simp only [numberLine, numberField, Field.line, Written.text_ofInteger, lineOf,
    String.toList_append, List.append_assoc, toList_equals, toList_feed, List.cons_append,
    List.nil_append]
  rfl

theorem toList_headerLine (key : String) : (headerLine key).toList = sectionLine key := by
  simp only [headerLine, String.toList_append, sectionLine, List.append_assoc]
  rfl

def ReporterConfig.fields (r : ReporterConfig) : List Field :=
  [textField "name" r.name (by decide), textField "report_dir" r.reportDir (by decide),
    textField "report_filename" r.reportFilename (by decide)]

/-- The language, if there is one. -/
def languageFields : Option String → List Field
  | none => []
  | some language => [textField "language" language (by decide)]

/-- The settings in their order, without the reporter's. -/
def Config.fields (c : Config) : List Field :=
  languageFields c.language ++
    [textField "suites_dir" c.suitesDir (by decide), textField "suffix" c.suffix (by decide),
      textField "command" c.command (by decide), numberField "jobs" c.jobs.toNat (by decide),
      numberField "failure_exit_code" c.failureExitCode.toNat (by decide)]

/-- The document of settings is one of fields and a section. -/
theorem render_eq_sections (c : Config) :
    c.render = String.ofList (sectionsText c.fields "reporter" c.reporter.fields) := by
  apply String.toList_inj.mp
  have hempty : "".toList = [] := rfl
  obtain ⟨_ | language, _⟩ := c <;>
    simp (disch := decide) only [Config.render, Config.fields, ReporterConfig.render,
      ReporterConfig.fields, languageFields, sectionsText, fieldsText, String.toList_append,
      String.toList_ofList, toList_feed, hempty, toList_textLine, toList_numberLine,
      toList_headerLine, List.flatMap_cons, List.flatMap_nil, List.append_assoc, List.append_nil,
      List.cons_append, List.nil_append]

/-! ## Values -/

/-- A count is the number that is written for it. -/
theorem readCount_toNat (n : UInt64) : readCount (.integer (n.toNat : Int)) = .ok n := by
  have hlt : (n.toNat : Int) < UInt64.size := Int.ofNat_lt.mpr n.toNat_lt
  rw [readCount, readBelow, if_pos ⟨Int.natCast_nonneg _, hlt⟩]
  exact congrArg Except.ok (UInt64.ofNat_toNat)

theorem readExitCode_toNat (n : UInt8) : readExitCode (.integer (n.toNat : Int)) = .ok n :=
  readExitCode_integer.mpr
    ⟨⟨Int.natCast_nonneg _, Int.ofNat_lt.mpr n.toNat_lt⟩, UInt8.ofNat_toNat⟩

theorem readReporter_fields (r : ReporterConfig) :
    readReporter (.table (fieldsTable r.fields)) = .ok r := by
  have hcheck : checkEntries checkReporterEntry (fieldsTable r.fields) = .ok () := by
    rw [checkEntries_eq_ok]
    simp only [fieldsTable, ReporterConfig.fields, List.map_cons, List.map_nil,
      List.forall_mem_cons]
    exact ⟨rfl, rfl, rfl, nofun⟩
  rw [readReporter, hcheck]
  rfl

def Config.table (c : Config) : Table :=
  fieldsTable c.fields ++ [("reporter", .table (fieldsTable c.reporter.fields))]

theorem checkEntry_table (c : Config) :
    ∀ entry ∈ c.table, checkEntry entry.1 entry.2 = .ok () := by
  have hlanguage : ∀ entry ∈ fieldsTable (languageFields c.language),
      checkEntry entry.1 entry.2 = .ok () := by
    cases c.language with
    | none => nofun
    | some language => exact List.forall_mem_singleton.mpr rfl
  have hjobs : checkEntry "jobs" = only readCount := rfl
  have hcode : checkEntry "failure_exit_code" = only readExitCode := rfl
  have hreporter : checkEntry "reporter" = only readReporter := rfl
  simp only [Config.table, Config.fields, fieldsTable, List.map_append, List.map_cons,
    List.map_nil, List.forall_mem_append, List.forall_mem_cons]
  refine ⟨⟨hlanguage, rfl, rfl, rfl, ?_, ?_, nofun⟩, ?_, nofun⟩
  · exact (congrFun hjobs _).trans (only_eq_ok_iff.mpr ⟨_, readCount_toNat c.jobs⟩)
  · exact (congrFun hcode _).trans (only_eq_ok_iff.mpr ⟨_, readExitCode_toNat c.failureExitCode⟩)
  · exact (congrFun hreporter _).trans (only_eq_ok_iff.mpr ⟨_, readReporter_fields c.reporter⟩)

theorem decodedFrom_table (c : Config) : c.DecodedFrom c.table := by
  have hreporter := readReporter_fields c.reporter
  have hjobs := readCount_toNat c.jobs
  have hcode := readExitCode_toNat c.failureExitCode
  have hchecked := checkEntry_table c
  -- with a language all other entries stand one place further back
  obtain ⟨_ | language, suitesDir, suffix, command, jobs, failureExitCode, reporter⟩ := c
  · exact ⟨hchecked, rfl, rfl, rfl, rfl, hjobs, hcode, hreporter⟩
  · exact ⟨hchecked, rfl, rfl, rfl, rfl, hjobs, hcode, hreporter⟩

/-- The keys of settings, without the reporter's. -/
def Config.keys (c : Config) : List String :=
  (if c.language.isSome then ["language"] else []) ++
    ["suites_dir", "suffix", "command", "jobs", "failure_exit_code"]

theorem keys_fields (c : Config) : c.fields.map Field.key = c.keys := by
  obtain ⟨_ | language, _⟩ := c <;> rfl

theorem parse_render (c : Config) : parse c.render = .ok c.table := by
  have hkeys : c.keys.Nodup ∧ "reporter" ∉ c.keys := by
    rw [Config.keys]
    cases c.language.isSome <;> decide
  have hinner : (c.reporter.fields.map Field.key).Nodup := by
    change ["name", "report_dir", "report_filename"].Nodup
    decide
  rw [← keys_fields] at hkeys
  rw [render_eq_sections]
  exact parse_sections (by decide) hkeys.1 hkeys.2 hinner

/-- The document of settings gives the same settings back, and they are accepted or refused as they
were. -/
theorem read_render (c : Config) (origin : String) :
    Config.read c.render = .ok c ∧
      Config.ofText c.render origin = (c.validate origin).map fun _ => c := by
  have hread : Config.read c.render = .ok c :=
    read_eq_ok.mpr ⟨c.table, parse_render c, decode_eq_ok.mpr (decodedFrom_table c)⟩
  refine ⟨hread, ?_⟩
  simp only [Config.ofText, hread]
  cases c.validate origin <;> rfl

end TapSuite
