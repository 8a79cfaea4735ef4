import Mathlib
import TapSuite.Proofs.Config.Entries
import TapSuite.Proofs.Text.Trim
import TapSuite.Proofs.Text.Utf8

/-!
# Layers of settings

The settings of a document are read setting by setting: a value of the right type at its key, else
the documented default.  On top of them lies what the command line gives.

    Config.decode t = .ok c ↔
      (allEntriesTyped t = true ∧ RightTypes t) ∧
        Config.layered {} t = c                                           (decode_eq_ok_iff_layered)
    (Config.layered {} t).apply o = Config.layered o t                               (apply_layered)

A document is accepted exactly if all its numbers have a type, all its settings have the right type
and range, and the settings meet the requirements, by themselves and under the command line's.
-/

namespace TapSuite

/-! ## Types and ranges -/

namespace Toml

def Value.text? : Value → Option String
  | .text s => some s
  | _ => none

def Value.number? : Value → Option Nat
  | .integer n => some n.toNat
  | _ => none

/-- The entries of a value that is a table. -/
def Value.entries : Value → Table
  | .table entries => entries
  | _ => []

def Value.IsText (v : Value) : Prop := ∃ s, v = .text s

/-- Whether a value is an integer from 0 up to a limit. -/
def Value.IsBelow (limit : Nat) (v : Value) : Prop := ∃ n : Int, v = .integer n ∧ 0 ≤ n ∧ n < limit

/-- Whether a value is a table, if it is the value of a reporter. -/
def ReportersAreTables (t : Table) : Prop := ∀ v, ("reporter", v) ∈ t → ∃ r, v = .table r

theorem allEntriesTyped_iff {t : Table} :
    allEntriesTyped t = true ↔ ∀ entry ∈ t, isTyped entry.2 = true := by
  induction t with
  | nil => simp [allEntriesTyped]
  | cons entry t ih =>
    obtain ⟨key, v⟩ := entry
    simp [allEntriesTyped, ih]

end Toml

open Toml

def settingTypes : List (String × Wanted) :=
  [("language", .text), ("suites_dir", .path), ("suffix", .text), ("command", .text),
    ("jobs", .count), ("failure_exit_code", .exitCode), ("reporter", .reporter)]

/-- Whether a value is what a setting has to be. -/
def Wanted.Fits : Wanted → Value → Prop
  | .text, v => v.IsText
  | .path, v => v.IsText
  | .count, v => v.IsBelow (2 ^ 64)
  | .exitCode, v => v.IsBelow (2 ^ 8)
  | .reporter, v => ∃ r, v = .table r ∧ ∀ entry ∈ r, entry.1 ∈ reporterKeys → entry.2.IsText

/-- Whether all settings in a table are what they have to be. -/
def RightTypes (t : Table) : Prop :=
  ∀ entry ∈ t, ∀ wanted, settingTypes.lookup entry.1 = some wanted → wanted.Fits entry.2

section Reading

variable {check : String → Value → Except DecodeError Unit} {key : String} {t : Table} {v : Value}

theorem readText_eq_ok {wanted : Wanted} {s : String} :
    readText wanted v = .ok s ↔ v = .text s := by
  cases v <;> simp [readText, mismatch_ne_ok]

theorem readBelow_eq_ok {limit : Nat} {wanted : Wanted} {k : Nat} :
    readBelow limit wanted v = .ok k ↔ v.IsBelow limit ∧ v.number? = some k := by
  cases v with
  | integer n =>
    by_cases hn : 0 ≤ n ∧ n < limit
    · simp [readBelow, Value.IsBelow, Value.number?, hn]
    · have hbelow : ¬ (Value.integer n).IsBelow limit := by
        rintro ⟨m, hm, hrange⟩
        cases hm
        exact hn hrange
      have hread : readBelow limit wanted (.integer n) ≠ .ok k := by
        rw [readBelow, if_neg hn]
        split
        · intro h
          cases h
        · exact mismatch_ne_ok _ _ _
      exact ⟨fun h => absurd h hread, fun h => absurd h.1 hbelow⟩
  | _ => simp [readBelow, Value.IsBelow, mismatch_ne_ok]

theorem only_readText {wanted : Wanted} : only (readText wanted) v = .ok () ↔ v.IsText := by
  simp only [only_eq_ok_iff, readText_eq_ok]
  rfl

theorem only_readBelow {α : Type} {limit : Nat} {wanted : Wanted} {f : Nat → α} :
    only (fun v => (readBelow limit wanted v).map f) v = .ok () ↔ v.IsBelow limit := by
  simp only [only_eq_ok_iff, map_eq_ok, readBelow_eq_ok]
  constructor
  · rintro ⟨a, k, ⟨h, -⟩, -⟩
    exact h
  · rintro ⟨n, rfl, h⟩
    exact ⟨_, _, ⟨⟨n, rfl, h⟩, rfl⟩, rfl⟩

theorem isTyped_of_isText (h : v.IsText) : isTyped v = true := by
  obtain ⟨s, rfl⟩ := h
  rfl

theorem isTyped_of_isBelow {limit : Nat} (hlimit : limit ≤ 2 ^ 64) (h : v.IsBelow limit) :
    isTyped v = true := by
  obtain ⟨n, rfl, hnonneg, hlt⟩ := h
  have hword : fitsWord n = true := by
    have hbelow : n < ((2 ^ 64 : Nat) : Int) := lt_of_lt_of_le hlt (Int.ofNat_le.mpr hlimit)
    simp only [fitsWord, fitsUnsigned, Bool.or_eq_true, decide_eq_true_eq]
    exact .inr ⟨hnonneg, hbelow⟩
  simp only [isTyped, describeInteger, if_pos hword, Option.isSome_some]

/-! ## Checks -/

theorem checkReporterEntry_eq_ok {key : String} :
    checkReporterEntry key v = .ok () ↔ isTyped v = true ∧ (key ∈ reporterKeys → v.IsText) := by
  by_cases hkey : key ∈ reporterKeys
  · have htext : checkReporterEntry key v = .ok () ↔ v.IsText := by
      simp only [reporterKeys, List.mem_cons, List.not_mem_nil, or_false] at hkey
      obtain rfl | rfl | rfl := hkey <;> exact only_readText
    rw [htext]
    exact ⟨fun h => ⟨isTyped_of_isText h, fun _ => h⟩, fun h => h.2 hkey⟩
  · rw [checkReporterEntry_of_not_mem hkey, readAny_eq_ok]
    exact ⟨fun h => ⟨h, fun hmem => absurd hmem hkey⟩, fun h => h.1⟩

/-- If all entries pass their checks, the value at a key can be read. -/
theorem exists_fieldOr {α : Type} (hchecked : ∀ entry ∈ t, check entry.1 entry.2 = .ok ())
    (key : String) (read : Value → Except DecodeError α) (dflt : α)
    (hcheck : check key = only read) : ∃ a, fieldOr read key dflt t = .ok a := by
  unfold fieldOr
  cases hlookup : t.lookup key with
  | none => exact ⟨dflt, rfl⟩
  | some v => exact only_eq_ok_iff.mp (hcheck ▸ hchecked _ (mem_of_lookup hlookup))

def textAt? (t : Table) (key : String) : Option String := (t.lookup key).bind Value.text?

def numberAt? (t : Table) (key : String) : Option Nat := (t.lookup key).bind Value.number?

theorem fieldOr_eq {α : Type} {read : Value → Except DecodeError α} (value? : Value → Option α)
    {dflt a : α} (hread : ∀ v, t.lookup key = some v → ∀ a, read v = .ok a → value? v = some a)
    (h : fieldOr read key dflt t = .ok a) : ((t.lookup key).bind value?).getD dflt = a := by
  unfold fieldOr at h
  cases hlookup : t.lookup key with
  | none =>
    rw [hlookup] at h
    exact Except.ok.inj h
  | some v =>
    rw [hlookup] at h
    simp [hread v hlookup a h]

theorem fieldOr_readText {wanted : Wanted} {dflt s : String}
    (h : fieldOr (readText wanted) key dflt t = .ok s) : (textAt? t key).getD dflt = s := by
  refine fieldOr_eq Value.text? (fun v _ s hs => ?_) h
  rw [readText_eq_ok.mp hs]
  rfl

theorem fieldOr_readBelow {α : Type} {limit : Nat} {wanted : Wanted} {f : Nat → α} {dflt a : α}
    (h : fieldOr (fun v => (readBelow limit wanted v).map f) key dflt t = .ok a) :
    ((numberAt? t key).map f).getD dflt = a := by
  have hvalue := fieldOr_eq (fun v => v.number?.map f) (fun v _ a ha => ?_) h
  · rwa [numberAt?, Option.map_bind]
  · obtain ⟨k, hk, rfl⟩ := map_eq_ok.mp ha
    rw [(readBelow_eq_ok.mp hk).2]
    rfl

/-! ## Reporters -/

def ReporterConfig.layered (o : Overrides) (r : Table) : ReporterConfig where
  name := (o.reporter.or (textAt? r "name")).getD "html"
  reportDir := (o.reportDir.or (textAt? r "report_dir")).getD "/report"
  reportFilename := (textAt? r "report_filename").getD "suite-report"

theorem readReporter_eq_ok {r : Table} {c : ReporterConfig} :
    readReporter (.table r) = .ok c ↔
      (∀ entry ∈ r, checkReporterEntry entry.1 entry.2 = .ok ()) ∧
        ReporterConfig.layered {} r = c := by
  simp only [readReporter, bind_eq_ok]
  constructor
  · rintro ⟨_, hchecked, name, hname, dir, hdir, filename, hfilename, hc⟩
    cases hc
    refine ⟨checkEntries_eq_ok.mp hchecked, ?_⟩
    rw [← fieldOr_readText hname, ← fieldOr_readText hdir, ← fieldOr_readText hfilename]
    rfl
  · rintro ⟨hchecked, rfl⟩
    have hfield := exists_fieldOr (α := String) hchecked
    obtain ⟨name, hname⟩ := hfield "name" (readText .text) ({} : ReporterConfig).name rfl
    obtain ⟨dir, hdir⟩ := hfield "report_dir" (readText .path) ({} : ReporterConfig).reportDir rfl
    obtain ⟨filename, hfilename⟩ :=
      hfield "report_filename" (readText .text) ({} : ReporterConfig).reportFilename rfl
    refine ⟨(), checkEntries_eq_ok.mpr hchecked, name, hname, dir, hdir, filename, hfilename, ?_⟩
    rw [← fieldOr_readText hname, ← fieldOr_readText hdir, ← fieldOr_readText hfilename]
    rfl

/-! ## Settings -/

/-- The check of what a setting has to be. -/
def Wanted.checkValue : Wanted → Value → Except DecodeError Unit
  | .text => only (readText .text)
  | .path => only (readText .path)
  | .count => only readCount
  | .exitCode => only readExitCode
  | .reporter => only readReporter

theorem Wanted.checkValue_eq_ok {wanted : Wanted}
    (hreporter : wanted = .reporter → ∃ r, v = .table r) :
    wanted.checkValue v = .ok () ↔ isTyped v = true ∧ wanted.Fits v := by
  cases wanted with
  | text => exact only_readText.trans ⟨fun h => ⟨isTyped_of_isText h, h⟩, fun h => h.2⟩
  | path => exact only_readText.trans ⟨fun h => ⟨isTyped_of_isText h, h⟩, fun h => h.2⟩
  | count =>
    exact only_readBelow.trans ⟨fun h => ⟨isTyped_of_isBelow (by decide) h, h⟩, fun h => h.2⟩
  | exitCode =>
    exact only_readBelow.trans ⟨fun h => ⟨isTyped_of_isBelow (by decide) h, h⟩, fun h => h.2⟩
  | reporter =>
    obtain ⟨r, rfl⟩ := hreporter rfl
    have hcheck : Wanted.checkValue .reporter (.table r) = .ok () ↔
        ∀ entry ∈ r, checkReporterEntry entry.1 entry.2 = .ok () := by
      simp only [Wanted.checkValue, only_eq_ok_iff, readReporter_eq_ok, exists_and_left,
        exists_eq', and_true]
    simp only [hcheck, checkReporterEntry_eq_ok, forall_and, isTyped, allEntriesTyped_iff,
      Wanted.Fits, Value.table.injEq, exists_eq_left']

theorem checkEntry_of_lookup {wanted : Wanted} (h : settingTypes.lookup key = some wanted) :
    checkEntry key = wanted.checkValue := by
  have hmem := mem_of_lookup h
  simp only [settingTypes, List.mem_cons, Prod.mk.injEq, List.not_mem_nil, or_false] at hmem
  obtain ⟨rfl, rfl⟩ | ⟨rfl, rfl⟩ | ⟨rfl, rfl⟩ | ⟨rfl, rfl⟩ | ⟨rfl, rfl⟩ | ⟨rfl, rfl⟩ |
    ⟨rfl, rfl⟩ := hmem <;> rfl

theorem checkEntry_of_lookup_eq_none (h : settingTypes.lookup key = none) :
    checkEntry key = readAny := by
  refine checkEntry_of_not_mem fun hmem => ?_
  simp only [settingKeys, List.mem_cons, List.not_mem_nil, or_false] at hmem
  obtain rfl | rfl | rfl | rfl | rfl | rfl | rfl := hmem <;> cases h

theorem checkEntry_eq_ok (hreporter : key = "reporter" → ∃ r, v = .table r) :
    checkEntry key v = .ok () ↔
      isTyped v = true ∧ ∀ wanted, settingTypes.lookup key = some wanted → wanted.Fits v := by
  cases hlookup : settingTypes.lookup key with
  | none =>
    rw [checkEntry_of_lookup_eq_none hlookup, readAny_eq_ok]
    exact ⟨fun h => ⟨h, nofun⟩, fun h => h.1⟩
  | some wanted =>
    have htable : wanted = .reporter → ∃ r, v = .table r := by
      rintro rfl
      have hmem := mem_of_lookup hlookup
      simp [settingTypes] at hmem
      exact hreporter hmem
    rw [checkEntry_of_lookup hlookup, Wanted.checkValue_eq_ok htable]
    simp

/-- All entries pass their checks exactly if their numbers have a type and all settings are what
they have to be. -/
theorem checked_iff (hreporter : ReportersAreTables t) :
    (∀ entry ∈ t, checkEntry entry.1 entry.2 = .ok ()) ↔
      allEntriesTyped t = true ∧ RightTypes t := by
  rw [allEntriesTyped_iff, RightTypes, ← forall₂_and]
  refine forall₂_congr fun entry hentry => checkEntry_eq_ok ?_
  rintro hkey
  exact hreporter entry.2 (hkey ▸ hentry)

/-- The reporter's table in a document, which is empty if there is none. -/
def reporterTable (t : Table) : Table := ((t.lookup "reporter").map Value.entries).getD []

/-- The settings in layers: what the command line gives, else what the document gives, else the
documented default. -/
def Config.layered (o : Overrides) (t : Table) : Config where
  language := textAt? t "language"
  suitesDir := (o.suitesDir.or (textAt? t "suites_dir")).getD "suites"
  suffix := (o.suffix.or (textAt? t "suffix")).getD ".js"
  command := (o.command.or (textAt? t "command")).getD "node --test --test-reporter=tap"
  jobs := (o.jobs.or ((numberAt? t "jobs").map UInt64.ofNat)).getD 1
  failureExitCode := ((numberAt? t "failure_exit_code").map UInt8.ofNat).getD 1
  reporter := ReporterConfig.layered o (reporterTable t)

theorem fieldOr_language {language : Option String}
    (h : fieldOr (fun v => (readText .text v).map some) "language" none t = .ok language) :
    textAt? t "language" = language := by
  have hvalue := fieldOr_eq (fun v => v.text?.map some) (fun v _ a ha => ?_) h
  · rw [← hvalue, textAt?]
    cases t.lookup "language" with
    | none => rfl
    | some v =>
      change v.text? = (v.text?.map some).getD none
      cases v.text? <;> rfl
  · obtain ⟨s, hs, rfl⟩ := map_eq_ok.mp ha
    rw [readText_eq_ok.mp hs]
    rfl

theorem fieldOr_readReporter {c : ReporterConfig} (hreporter : ReportersAreTables t)
    (h : fieldOr readReporter "reporter" {} t = .ok c) :
    ReporterConfig.layered {} (reporterTable t) = c := by
  have hvalue := fieldOr_eq (fun v => some (ReporterConfig.layered {} v.entries))
    (fun v hlookup a ha => ?_) h
  · rw [← hvalue, reporterTable]
    cases t.lookup "reporter" <;> rfl
  · obtain ⟨r, rfl⟩ := hreporter v (mem_of_lookup hlookup)
    exact congrArg some (readReporter_eq_ok.mp ha).2

theorem Config.DecodedFrom.layered_eq {c : Config} (h : c.DecodedFrom t)
    (hreporter : ReportersAreTables t) : Config.layered {} t = c := by
  obtain ⟨language, suitesDir, suffix, command, jobs, exitCode, reporter⟩ := c
  rw [Config.layered, Config.mk.injEq]
  exact ⟨fieldOr_language h.language, fieldOr_readText h.suitesDir, fieldOr_readText h.suffix,
    fieldOr_readText h.command, fieldOr_readBelow h.jobs, fieldOr_readBelow h.failureExitCode,
    fieldOr_readReporter hreporter h.reporter⟩

theorem exists_decodedFrom (hchecked : ∀ entry ∈ t, checkEntry entry.1 entry.2 = .ok ()) :
    ∃ c : Config, c.DecodedFrom t := by
  have hlanguage : checkEntry "language" = only fun v => (readText .text v).map some := by
    funext v
    change only (readText .text) v = _
    simp only [only]
    cases readText .text v <;> rfl
  obtain ⟨language, hlanguage⟩ := exists_fieldOr hchecked "language" _ none hlanguage
  obtain ⟨suitesDir, hsuitesDir⟩ :=
    exists_fieldOr hchecked "suites_dir" (readText .path) ({} : Config).suitesDir rfl
  obtain ⟨suffix, hsuffix⟩ :=
    exists_fieldOr hchecked "suffix" (readText .text) ({} : Config).suffix rfl
  obtain ⟨command, hcommand⟩ :=
    exists_fieldOr hchecked "command" (readText .text) ({} : Config).command rfl
  obtain ⟨jobs, hjobs⟩ := exists_fieldOr hchecked "jobs" readCount ({} : Config).jobs rfl
  obtain ⟨exitCode, hexitCode⟩ :=
    exists_fieldOr hchecked "failure_exit_code" readExitCode ({} : Config).failureExitCode rfl
  obtain ⟨reporter, hreporter⟩ := exists_fieldOr hchecked "reporter" readReporter {} rfl
  exact ⟨⟨language, suitesDir, suffix, command, jobs, exitCode, reporter⟩, hchecked, hlanguage,
    hsuitesDir, hsuffix, hcommand, hjobs, hexitCode, hreporter⟩

/-- A table gives settings exactly if all its entries pass their checks, and then those of the
document over the defaults. -/
theorem decode_eq_ok_iff_layered (hreporter : ReportersAreTables t) {c : Config} :
    Config.decode t = .ok c ↔
      (allEntriesTyped t = true ∧ RightTypes t) ∧ Config.layered {} t = c := by
  rw [← checked_iff hreporter, decode_eq_ok]
  constructor
  · intro h
    exact ⟨h.checked, h.layered_eq hreporter⟩
  · -- there are settings that are read, and they can be no others
    rintro ⟨hchecked, rfl⟩
    obtain ⟨c, hc⟩ := exists_decodedFrom hchecked
    rwa [hc.layered_eq hreporter]

end Reading

/-! ## Merging -/

theorem apply_layered (o : Overrides) (t : Table) :
    (Config.layered {} t).apply o = Config.layered o t := by
  simp [Config.layered, Config.apply, ReporterConfig.layered, Option.getD_or]

/-! ## Requirements -/

/-- The requirements on settings. -/
structure Config.Meets (c : Config) : Prop where
  suffix : c.suffix ≠ ""
  command : ∃ char ∈ c.command.toList, Text.isBlank char = false
  jobs : 1 ≤ c.jobs.toNat
  failureExitCode : 1 ≤ c.failureExitCode.toNat

theorem violation?_eq_none_iff_meets {c : Config} : c.violation? = none ↔ c.Meets := by
  have hsuffix : c.suffix ≠ "" ↔ ¬ c.suffix.isEmpty = true := by rw [String.isEmpty_iff]
  have hcommand : (∃ char ∈ c.command.toList, Text.isBlank char = false) ↔
      ¬ (Text.trim c.command.toList).isEmpty = true := by
    rw [List.isEmpty_iff, Text.trim_eq_nil_iff]
    simp
  have hjobs : 1 ≤ c.jobs.toNat ↔ c.jobs ≠ 0 := by
    rw [Nat.one_le_iff_ne_zero, Ne, Ne, ← UInt64.toNat_inj]
    rfl
  have hexitCode : 1 ≤ c.failureExitCode.toNat ↔ c.failureExitCode ≠ 0 := by
    rw [Nat.one_le_iff_ne_zero, Ne, Ne, ← UInt8.toNat_inj]
    rfl
  unfold Config.violation?
  constructor
  · intro h
    split at h
    · cases h
    next hs =>
    split at h
    · cases h
    next hc =>
    split at h
    · cases h
    next hj =>
    split at h
    · cases h
    next he =>
    exact ⟨hsuffix.mpr hs, hcommand.mpr hc, hjobs.mpr hj, hexitCode.mpr he⟩
  · rintro ⟨hs, hc, hj, he⟩
    rw [if_neg (hsuffix.mp hs), if_neg (hcommand.mp hc), if_neg (hjobs.mp hj),
      if_neg (hexitCode.mp he)]

theorem validate_eq_error {c : Config} {origin : String} {e : SetupError}
    (h : c.validate origin = .error e) : ∃ problem, e = .config origin problem := by
  unfold Config.validate at h
  split at h
  · cases h
  · cases h
    exact ⟨_, rfl⟩

/-! ## Unknown keys -/

/-- A value at a key without unknown keys, which only a reporter can have. -/
def knownValue (key : String) (v : Value) : Value :=
  match v with
  | .table r => if key = "reporter" then .table (r.filter (·.1 ∈ reporterKeys)) else v
  | v => v

/-- The entries of a document without unknown keys, also among the reporter's. -/
def knownEntries (t : Table) : Table :=
  (t.filter (·.1 ∈ settingKeys)).map fun (key, v) => (key, knownValue key v)

section Unknown

variable {key : String} {t t' : Table}

theorem lookup_knownEntries (h : key ∈ settingKeys) (t : Table) :
    (knownEntries t).lookup key = (t.lookup key).map (knownValue key) := by
  rw [knownEntries, lookup_map, lookup_filter (· ∈ settingKeys) (decide_eq_true h)]

theorem knownValue_of_ne (h : key ≠ "reporter") (v : Value) : knownValue key v = v := by
  unfold knownValue
  split
  · exact if_neg h
  · rfl

theorem entries_knownValue (v : Value) :
    (knownValue "reporter" v).entries = v.entries.filter (·.1 ∈ reporterKeys) := by
  cases v <;> rfl

theorem layered_knownEntries (o : Overrides) (t : Table) :
    Config.layered o (knownEntries t) = Config.layered o t := by
  have hlookup (key : String) (h : key ∈ settingKeys) (hne : key ≠ "reporter") :
      (knownEntries t).lookup key = t.lookup key := by
    rw [lookup_knownEntries h, funext (knownValue_of_ne hne), Option.map_id']
  have htable : reporterTable (knownEntries t) =
      (reporterTable t).filter (·.1 ∈ reporterKeys) := by
    rw [reporterTable, lookup_knownEntries (by decide), reporterTable]
    cases t.lookup "reporter" with
    | none => rfl
    | some v => exact entries_knownValue v
  have hreporter (key : String) (h : key ∈ reporterKeys) (r : Table) :
      (r.filter (·.1 ∈ reporterKeys)).lookup key = r.lookup key :=
    lookup_filter (· ∈ reporterKeys) (decide_eq_true h) r
  simp (disch := decide) only [Config.layered, ReporterConfig.layered, textAt?, numberAt?, hlookup,
    htable, hreporter]

theorem mem_settingKeys_of_lookup {wanted : Wanted} (h : settingTypes.lookup key = some wanted) :
    key ∈ settingKeys :=
  List.mem_map_of_mem (f := Prod.fst) (mem_of_lookup h)

theorem fits_knownValue {wanted : Wanted} (h : settingTypes.lookup key = some wanted)
    (v : Value) : wanted.Fits (knownValue key v) ↔ wanted.Fits v := by
  by_cases hkey : key = "reporter"
  · subst hkey
    obtain rfl : .reporter = wanted := Option.some.inj h
    cases v with
    | table r => simp [knownValue, Wanted.Fits, List.mem_filter]
    | _ => rfl
  · rw [knownValue_of_ne hkey]

theorem rightTypes_knownEntries (t : Table) : RightTypes (knownEntries t) ↔ RightTypes t := by
  unfold RightTypes knownEntries
  constructor
  · intro h entry hentry wanted hwanted
    have hkey : entry.1 ∈ settingKeys := mem_settingKeys_of_lookup hwanted
    have hmem : entry ∈ t.filter (·.1 ∈ settingKeys) :=
      List.mem_filter.mpr ⟨hentry, decide_eq_true hkey⟩
    exact (fits_knownValue hwanted entry.2).mp (h _ (List.mem_map_of_mem hmem) wanted hwanted)
  · intro h entry hentry wanted hwanted
    obtain ⟨old, hold, rfl⟩ := List.mem_map.mp hentry
    exact (fits_knownValue hwanted old.2).mpr (h old (List.mem_of_mem_filter hold) wanted hwanted)

end Unknown

/-! ## Documents -/

/-- Whether a document is accepted with what the command line gives: all its numbers have a type,
all settings are what they have to be, and they meet the requirements by themselves and under those
of the command line. -/
@[mk_iff acceptedUnder_iff]
structure Config.AcceptedUnder (o : Overrides) (t : Table) : Prop where
  numbers : allEntriesTyped t = true
  types : RightTypes t
  own : (Config.layered {} t).Meets
  merged : (Config.layered o t).Meets

theorem ofText_eq_ok_iff_layered {text origin : String} {t : Table} {c : Config}
    (hparse : parse text = .ok t) (hreporter : ReportersAreTables t) :
    Config.ofText text origin = .ok c ↔
      (allEntriesTyped t = true ∧ RightTypes t) ∧ Config.layered {} t = c ∧ c.Meets := by
  rw [ofText_eq_ok, read_eq_ok, violation?_eq_none_iff_meets]
  simp only [hparse, Except.ok.injEq, exists_eq_left', decode_eq_ok_iff_layered hreporter,
    and_assoc]

/-- Settings cannot be had from a text for reasons that name where the text came from. -/
theorem ofText_eq_error {text origin : String} {e : SetupError}
    (h : Config.ofText text origin = .error e) : ∃ problem, e = .config origin problem := by
  unfold Config.ofText at h
  split at h
  · cases h
    exact ⟨_, rfl⟩
  split at h
  next hvalid =>
    cases h
    exact validate_eq_error hvalid
  · cases h

/-- A file that holds the encoding of a text reads as that text. -/
theorem readText_of_encode {w : Workspace} {path text : String} {p : Workspace.Position}
    (hresolve : w.resolve path = .ok p)
    (hfile : w.lookUp? p = some (.file (Text.Utf8.encode text.toList))) :
    w.readText path = .ok text := by
  simp only [Workspace.readText, Workspace.readBytes, hresolve, hfile,
    Text.Utf8.text?_eq_some_iff.mpr rfl, String.ofList_toList]

theorem holds_of_readText {w : Workspace} {path text : String} (h : w.readText path = .ok text) :
    w.holds path = true := by
  unfold Workspace.readText Workspace.readBytes at h
  unfold Workspace.holds Workspace.find?
  cases hresolve : w.resolve path with
  | error fault =>
    rw [hresolve] at h
    cases h
  | ok q =>
    rw [hresolve] at h
    dsimp only at h ⊢
    cases hlookup : w.lookUp? q with
    | none =>
      rw [hlookup] at h
      cases h
    | some e => rfl

theorem load_of_readText {w : Workspace} {path text : String} (h : w.readText path = .ok text)
    (required : Bool) : Config.load w path required = Config.ofText text path := by
  rw [Config.load, if_pos (holds_of_readText h), h]

end TapSuite
