import TapSuite.Config.Load
import TapSuite.Proofs.Toml.Document

/-!
# The exit code in the settings

An integer in a document is an exit code for failures exactly if it lies between 1 and 255.  It is
taken as it is: nothing is cut off, and what the command line gives does not change it.

    t.lookup "failure_exit_code" = some (.integer n) →
      (Accepted t ↔ 1 ≤ n ∧ n ≤ 255 ∧ Accepted (without "failure_exit_code" t))   (accepted_iff)
-/

namespace TapSuite

open Toml

/-! ## Tables without a key -/

def Toml.without (key : String) (t : Table) : Table := t.filter (·.1 ≠ key)

theorem lookup_without (key : String) (t : Table) : (without key t).lookup key = none := by
  rw [List.lookup_eq_none_iff]
  intro entry hentry
  have hne : entry.1 ≠ key := by simpa using (List.mem_filter.mp hentry).2
  exact bne_iff_ne.mpr hne.symm

theorem lookup_without_of_ne {key other : String} (h : other ≠ key) (t : Table) :
    (without key t).lookup other = t.lookup other :=
  lookup_filter (· ≠ key) (decide_eq_true h) t

theorem fieldOr_without {α : Type} {read : Value → Except DecodeError α} {key other : String}
    {dflt : α} (h : other ≠ key) (t : Table) :
    fieldOr read other dflt (without key t) = fieldOr read other dflt t := by
  rw [fieldOr, fieldOr, lookup_without_of_ne h]

/-! ## Reading a document's table -/

theorem checkEntries_eq_ok {check : String → Value → Except DecodeError Unit} {t : Table} :
    checkEntries check t = .ok () ↔ ∀ entry ∈ t, check entry.1 entry.2 = .ok () := by
  rw [checkEntries, forM_eq_ok]
  simp only [sortedEntries, List.mem_mergeSort]

theorem only_eq_ok_iff {α : Type} {read : Value → Except DecodeError α} {v : Value} :
    only read v = .ok () ↔ ∃ a, read v = .ok a := by
  rw [only, map_eq_ok]
  simp

/-- What the settings of a table are: all entries have the right types and ranges, and every setting
is the one of its entry, or the default. -/
structure Config.DecodedFrom (t : Table) (c : Config) : Prop where
  checked : ∀ entry ∈ t, checkEntry entry.1 entry.2 = .ok ()
  language : fieldOr (fun v => (readText .text v).map some) "language" none t = .ok c.language
  suitesDir : fieldOr (readText .path) "suites_dir" ({} : Config).suitesDir t = .ok c.suitesDir
  suffix : fieldOr (readText .text) "suffix" ({} : Config).suffix t = .ok c.suffix
  command : fieldOr (readText .text) "command" ({} : Config).command t = .ok c.command
  jobs : fieldOr readCount "jobs" ({} : Config).jobs t = .ok c.jobs
  failureExitCode :
    fieldOr readExitCode "failure_exit_code" ({} : Config).failureExitCode t =
      .ok c.failureExitCode
  reporter : fieldOr readReporter "reporter" {} t = .ok c.reporter

theorem decode_eq_ok {t : Table} {c : Config} : Config.decode t = .ok c ↔ c.DecodedFrom t := by
  simp only [Config.decode, bind_eq_ok]
  constructor
  · rintro ⟨_, hchecked, language, hlanguage, suitesDir, hsuitesDir, suffix, hsuffix, command,
      hcommand, jobs, hjobs, code, hcode, reporter, hreporter, hconfig⟩
    cases hconfig
    exact ⟨checkEntries_eq_ok.mp hchecked, hlanguage, hsuitesDir, hsuffix, hcommand, hjobs, hcode,
      hreporter⟩
  · intro h
    exact ⟨(), checkEntries_eq_ok.mpr h.checked, _, h.language, _, h.suitesDir, _, h.suffix, _,
      h.command, _, h.jobs, _, h.failureExitCode, _, h.reporter, rfl⟩

/-! ## Exit codes -/

theorem mismatch_ne_ok {α : Type} (v : Value) (wanted : Wanted) (a : α) :
    mismatch v wanted ≠ .ok a := by
  unfold mismatch
  split <;> simp

theorem readExitCode_integer {n : Int} {code : UInt8} :
    readExitCode (.integer n) = .ok code ↔ (0 ≤ n ∧ n < 256) ∧ UInt8.ofNat n.toNat = code := by
  rw [readExitCode, map_eq_ok]
  constructor
  · rintro ⟨k, hk, rfl⟩
    rw [readBelow] at hk
    split at hk
    · next hn =>
      cases hk
      exact ⟨hn, rfl⟩
    · split at hk
      · cases hk
      · exact absurd hk (mismatch_ne_ok _ _ _)
  · rintro ⟨hn, rfl⟩
    exact ⟨n.toNat, if_pos hn, rfl⟩

/-- An exit code in range is the integer itself. -/
theorem toNat_exitCode {n : Int} (h : 0 ≤ n ∧ n < 256) :
    ((UInt8.ofNat n.toNat).toNat : Int) = n := by
  have hlt : n.toNat < UInt8.size := (Int.toNat_lt h.1).mpr h.2
  rw [UInt8.toNat_ofNat_of_lt' hlt]
  exact Int.toNat_of_nonneg h.1

/-- The exit code is one of the requirements; the others have nothing to do with it. -/
theorem violation?_eq_none {c : Config} :
    c.violation? = none ↔
      { c with failureExitCode := 1 }.violation? = none ∧ c.failureExitCode ≠ 0 := by
  unfold Config.violation?
  split
  · exact ⟨nofun, nofun⟩
  split
  · exact ⟨nofun, nofun⟩
  split
  · exact ⟨nofun, nofun⟩
  · simp

theorem exitCode_of_violation? {c : Config} (h : c.violation? = none) :
    1 ≤ c.failureExitCode.toNat ∧ c.failureExitCode.toNat ≤ 255 := by
  have hne : c.failureExitCode.toNat ≠ 0 := fun hzero =>
    (violation?_eq_none.mp h).2 (UInt8.toNat_inj.mp hzero)
  exact ⟨Nat.one_le_iff_ne_zero.mpr hne, Nat.le_of_lt_succ c.failureExitCode.toNat_lt⟩

theorem failureExitCode_apply (c : Config) (o : Overrides) :
    (c.apply o).failureExitCode = c.failureExitCode := rfl

/-! ## Documents -/

/-- Whether settings are read from a table and meet all requirements. -/
def Config.Accepted (t : Table) : Prop := ∃ c, Config.decode t = .ok c ∧ c.violation? = none

theorem validate_eq_ok {c : Config} {origin : String} :
    c.validate origin = .ok () ↔ c.violation? = none := by
  unfold Config.validate
  split
  · next h => exact ⟨fun _ => h, fun _ => rfl⟩
  · next h => exact ⟨nofun, fun hnone => by rw [h] at hnone; cases hnone⟩

theorem read_eq_ok {text : String} {c : Config} :
    Config.read text = .ok c ↔ ∃ t, parse text = .ok t ∧ Config.decode t = .ok c := by
  unfold Config.read
  constructor
  · intro h
    split at h
    · cases h
    · next t hparse => exact ⟨t, hparse, h⟩
  · rintro ⟨t, hparse, hdecode⟩
    rw [hparse]
    exact hdecode

theorem ofText_eq_ok {text origin : String} {c : Config} :
    Config.ofText text origin = .ok c ↔ Config.read text = .ok c ∧ c.violation? = none := by
  unfold Config.ofText
  constructor
  · intro h
    split at h
    · cases h
    next d hread =>
    split at h
    · cases h
    next hvalid =>
    cases h
    exact ⟨hread, validate_eq_ok.mp hvalid⟩
  · rintro ⟨hread, hnone⟩
    rw [hread]
    simp only [validate_eq_ok.mpr hnone]

/-- A document gives settings exactly if its table is accepted. -/
theorem ofText_isOk_iff {text : String} {t : Table} (h : parse text = .ok t) (origin : String) :
    (∃ c, Config.ofText text origin = .ok c) ↔ Config.Accepted t := by
  simp only [ofText_eq_ok, read_eq_ok, h, Except.ok.injEq, exists_eq_left', Config.Accepted]

namespace Config.DecodedFrom

variable {t : Table} {n : Int} {c : Config}

/-- The exit code that is read is the integer that is written. -/
theorem exitCode (h : c.DecodedFrom t) (hn : t.lookup "failure_exit_code" = some (.integer n)) :
    (0 ≤ n ∧ n < 256) ∧ (c.failureExitCode.toNat : Int) = n := by
  have hcode := h.failureExitCode
  rw [fieldOr, hn] at hcode
  obtain ⟨hrange, hvalue⟩ := readExitCode_integer.mp hcode
  exact ⟨hrange, by rw [← hvalue, toNat_exitCode hrange]⟩

/-- The settings that stand beside an exit code. -/
theorem erase (h : c.DecodedFrom t) :
    { c with failureExitCode := 1 }.DecodedFrom (without "failure_exit_code" t) where
  checked entry hentry := h.checked entry (List.mem_of_mem_filter hentry)
  language := (fieldOr_without (by decide) t).trans h.language
  suitesDir := (fieldOr_without (by decide) t).trans h.suitesDir
  suffix := (fieldOr_without (by decide) t).trans h.suffix
  command := (fieldOr_without (by decide) t).trans h.command
  jobs := (fieldOr_without (by decide) t).trans h.jobs
  failureExitCode := by rw [fieldOr, lookup_without]
  reporter := (fieldOr_without (by decide) t).trans h.reporter

/-- No key occurs twice in a document, so besides an exit code in range there is no other that could
be wrong. -/
theorem restore (h : c.DecodedFrom (without "failure_exit_code" t))
    (hn : t.lookup "failure_exit_code" = some (.integer n)) (hkeys : (t.map (·.1)).Nodup)
    (hrange : 0 ≤ n ∧ n < 256) :
    { c with failureExitCode := UInt8.ofNat n.toNat }.DecodedFrom t where
  checked entry hentry := by
    -- a second entry for the exit code would be checked although it is never read
    by_cases hkey : entry.1 = "failure_exit_code"
    · have heq : entry = ("failure_exit_code", .integer n) :=
        List.inj_on_of_nodup_map hkeys hentry (mem_of_lookup hn) hkey
      have hread := readExitCode_integer.mpr ⟨hrange, rfl⟩
      rw [heq]
      exact map_eq_ok.mpr ⟨_, hread, rfl⟩
    · exact h.checked entry (List.mem_filter.mpr ⟨hentry, by simpa using hkey⟩)
  language := (fieldOr_without (by decide) t).symm.trans h.language
  suitesDir := (fieldOr_without (by decide) t).symm.trans h.suitesDir
  suffix := (fieldOr_without (by decide) t).symm.trans h.suffix
  command := (fieldOr_without (by decide) t).symm.trans h.command
  jobs := (fieldOr_without (by decide) t).symm.trans h.jobs
  failureExitCode := by
    rw [fieldOr, hn]
    exact readExitCode_integer.mpr ⟨hrange, rfl⟩
  reporter := (fieldOr_without (by decide) t).symm.trans h.reporter

end Config.DecodedFrom

/-- An integer is accepted as exit code exactly if it lies between 1 and 255. -/
theorem accepted_iff {t : Table} {n : Int} (hkeys : (t.map (·.1)).Nodup)
    (hn : t.lookup "failure_exit_code" = some (.integer n)) :
    Config.Accepted t ↔
      (1 ≤ n ∧ n ≤ 255) ∧ Config.Accepted (without "failure_exit_code" t) := by
  constructor
  · rintro ⟨c, hdecode, hnone⟩
    have hdecoded := decode_eq_ok.mp hdecode
    obtain ⟨hone, hmost⟩ := exitCode_of_violation? hnone
    obtain ⟨-, hvalue⟩ := hdecoded.exitCode hn
    refine ⟨by omega, _, decode_eq_ok.mpr hdecoded.erase, (violation?_eq_none.mp hnone).1⟩
  · rintro ⟨⟨hone, hmost⟩, c, hdecode, hnone⟩
    have hrange : 0 ≤ n ∧ n < 256 := by omega
    have hvalue := toNat_exitCode hrange
    refine ⟨_, decode_eq_ok.mpr ((decode_eq_ok.mp hdecode).restore hn hkeys hrange), ?_⟩
    have hne : UInt8.ofNat n.toNat ≠ 0 := by
      intro hzero
      rw [hzero] at hvalue
      have hn : (0 : Int) = n := hvalue
      omega
    exact violation?_eq_none.mpr ⟨(violation?_eq_none.mp hnone).1, hne⟩

/-- A document with nothing but an exit code, in decimal digits. -/
theorem ofText_integer_isOk_iff (n : Int) (origin : String) :
    (∃ c, Config.ofText ("failure_exit_code" ++ " = " ++ toString n ++ "\n") origin = .ok c) ↔
      1 ≤ n ∧ n ≤ 255 := by
  have hparse := parse_integer "failure_exit_code" (by decide) (by decide) n
  have hdecoded : ({} : Config).DecodedFrom [] :=
    ⟨fun _ h => (List.not_mem_nil h).elim, rfl, rfl, rfl, rfl, rfl, rfl, rfl⟩
  have hdefaults : Config.Accepted [] := ⟨{}, decode_eq_ok.mpr hdecoded, by decide⟩
  rw [ofText_isOk_iff hparse, accepted_iff (nodup_keys_parse hparse) List.lookup_cons_self]
  exact and_iff_left hdefaults

end TapSuite
