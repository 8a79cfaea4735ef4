import Mathlib
import TapSuite.Proofs.Config.ExitCode

/-!
# Entries that stand beside the others

Entries are checked one by one, in the order of their keys.  So an entry that passes its check can
be left out of a table, and the check ends as before.  An entry of an unknown key passes if its
value is of some type; without the entry of a language the settings lose that only.

    key ∉ settingKeys → checkEntry key = readAny                           (checkEntry_of_not_mem)
    (Config.decode t).map mute = Config.decode (without "language" t)                (decode_mute)
-/

namespace TapSuite

open Toml

variable {check : String → Value → Except DecodeError Unit} {key : String} {t : Table}

/-! ## Order -/

/-- Whether the key of an entry does not come after that of another. -/
def InOrder (a b : String × Value) : Prop := a.1 ≤ b.1

theorem pairwise_sortedEntries (t : Table) : (sortedEntries t).Pairwise InOrder := by
  have hle (a b : String × Value) : (!decide (b.1 < a.1)) = true ↔ a.1 ≤ b.1 := by
    rw [Bool.not_eq_true', decide_eq_false_iff_not, String.not_lt]
  have hsorted := List.pairwise_mergeSort
    (fun a b c hab hbc => (hle a c).mpr (String.le_trans ((hle a b).mp hab) ((hle b c).mp hbc)))
    (fun a b => by
      rw [Bool.or_eq_true, hle, hle]
      exact String.le_total a.1 b.1) t
  exact hsorted.imp fun hab => (hle _ _).mp hab

/-- Entries of different keys have one order only, so it does not matter when one is left out. -/
theorem sortedEntries_without (hkeys : (t.map (·.1)).Nodup) (key : String) :
    sortedEntries (without key t) = without key (sortedEntries t) := by
  have hperm : (sortedEntries (without key t)).Perm (without key (sortedEntries t)) :=
    (List.mergeSort_perm _ _).trans ((List.mergeSort_perm t _).filter _).symm
  refine hperm.eq_of_pairwise ?_ (pairwise_sortedEntries _) ((pairwise_sortedEntries t).filter _)
  intro a b ha hb hab hba
  have hmem : a ∈ t := List.mem_of_mem_filter (List.mem_mergeSort.mp ha)
  have hmem' : b ∈ t := List.mem_mergeSort.mp (List.mem_of_mem_filter hb)
  exact List.inj_on_of_nodup_map hkeys hmem hmem' (String.le_antisymm hab hba)

theorem forM_filter {α ε : Type} {f : α → Except ε Unit} {keep : α → Bool} {l : List α}
    (h : ∀ a ∈ l, keep a = false → f a = .ok ()) : (l.filter keep).forM f = l.forM f := by
  induction l with
  | nil => rfl
  | cons a l ih =>
    obtain ⟨ha, hrest⟩ := List.forall_mem_cons.mp h
    have hcons : (a :: l).forM f = f a >>= fun _ => l.forM f := List.forM_cons
    cases hkeep : keep a with
    | false => rw [List.filter_cons_of_neg (by simp [hkeep]), hcons, ha hkeep, ok_bind, ih hrest]
    | true =>
      have hcons' : (a :: l.filter keep).forM f = f a >>= fun _ => (l.filter keep).forM f :=
        List.forM_cons
      rw [List.filter_cons_of_pos hkeep, hcons, hcons', ih hrest]

/-- A check ends the same way without an entry that passes it. -/
theorem checkEntries_without (hkeys : (t.map (·.1)).Nodup)
    (hpass : ∀ v, (key, v) ∈ t → check key v = .ok ()) :
    checkEntries check (without key t) = checkEntries check t := by
  rw [checkEntries, checkEntries, sortedEntries_without hkeys]
  refine forM_filter fun entry hentry hkey => ?_
  obtain ⟨k, v⟩ := entry
  have hk : k = key := by simpa using hkey
  subst hk
  exact hpass v (List.mem_mergeSort.mp hentry)

/-! ## Unknown keys -/

def settingKeys : List String :=
  ["language", "suites_dir", "suffix", "command", "jobs", "failure_exit_code", "reporter"]

def reporterKeys : List String := ["name", "report_dir", "report_filename"]

theorem readAny_eq_ok {v : Value} : readAny v = .ok () ↔ isTyped v = true := by
  unfold readAny
  split <;> simp_all

theorem checkEntry_of_not_mem (h : key ∉ settingKeys) : checkEntry key = readAny := by
  simp only [settingKeys, List.mem_cons, List.not_mem_nil, or_false, not_or] at h
  obtain ⟨hlanguage, hdir, hsuffix, hcommand, hjobs, hcode, hreporter⟩ := h
  simp only [checkEntry, hlanguage, hsuffix, hcommand, hdir, hjobs, hcode, hreporter, or_self,
    if_false]

theorem checkReporterEntry_of_not_mem (h : key ∉ reporterKeys) :
    checkReporterEntry key = readAny := by
  simp only [reporterKeys, List.mem_cons, List.not_mem_nil, or_false, not_or] at h
  obtain ⟨hname, hdir, hfilename⟩ := h
  simp only [checkReporterEntry, hname, hfilename, hdir, or_self, if_false]

/-! ## The language -/

/-- Settings without a language. -/
def Config.mute (c : Config) : Config := { c with language := none }

/-- Whether a document gives the language as a text, if it gives one. -/
def NamesLanguage (t : Table) : Prop := ∀ v, ("language", v) ∈ t → ∃ language, v = .text language

theorem NamesLanguage.read (h : NamesLanguage t) :
    ∃ language, fieldOr (fun v => (readText .text v).map some) "language" none t =
      .ok language := by
  unfold fieldOr
  cases hlookup : t.lookup "language" with
  | none => exact ⟨none, rfl⟩
  | some v =>
    obtain ⟨language, rfl⟩ := h v (mem_of_lookup hlookup)
    exact ⟨some language, rfl⟩

/-- Without its language, a document gives the same settings without a language, or the same
error. -/
theorem decode_mute (hkeys : (t.map (·.1)).Nodup) (h : NamesLanguage t) :
    (Config.decode t).map Config.mute = Config.decode (without "language" t) := by
  have hchecked : checkEntries checkEntry (without "language" t) = checkEntries checkEntry t := by
    refine checkEntries_without hkeys fun v hv => ?_
    obtain ⟨language, rfl⟩ := h v hv
    rfl
  obtain ⟨language, hlanguage⟩ := h.read
  have hnone : fieldOr (fun v => (readText .text v).map some) "language" none
      (without "language" t) = .ok none := by
    rw [fieldOr, lookup_without]
  simp (disch := decide) only [Config.decode, hchecked, hlanguage, hnone, ok_bind, map_bind,
    fieldOr_without]
  rfl

/-- No requirement looks at the language. -/
theorem validate_of_mute {c c' : Config} (h : c'.mute = c.mute) (origin : String) :
    c'.validate origin = c.validate origin :=
  calc c'.validate origin
      = c'.mute.validate origin := rfl
    _ = c.mute.validate origin := by rw [h]
    _ = c.validate origin := rfl

theorem apply_of_mute {c c' : Config} (h : c'.mute = c.mute) (o : Overrides) :
    (c'.apply o).mute = (c.apply o).mute :=
  calc (c'.apply o).mute
      = c'.mute.apply o := rfl
    _ = c.mute.apply o := by rw [h]
    _ = (c.apply o).mute := rfl

theorem ofText_mute {text text' : String} (origin : String)
    (h : (Config.read text').map Config.mute = (Config.read text).map Config.mute) :
    (Config.ofText text' origin).map Config.mute = (Config.ofText text origin).map Config.mute := by
  unfold Config.ofText
  obtain ⟨e, hread', hread⟩ | ⟨c', c, hread', hread, hmute⟩ := map_eq_map_iff.mp h
  · rw [hread', hread]
  · rw [hread', hread]
    simp only [validate_of_mute hmute]
    cases c.validate origin with
    | error e => rfl
    | ok _ => exact congrArg Except.ok hmute

/-- Documents that differ in their language only give the same settings up to it, or the same
error. -/
theorem read_mute {text text' : String} {t t' : Table} (hparse : parse text = .ok t)
    (hparse' : parse text' = .ok t') (hnames : NamesLanguage t) (hnames' : NamesLanguage t')
    (h : without "language" t' = without "language" t) :
    (Config.read text').map Config.mute = (Config.read text).map Config.mute := by
  simp only [Config.read, hparse, hparse']
  rw [decode_mute (nodup_keys_parse hparse) hnames,
    decode_mute (nodup_keys_parse hparse') hnames', h]

end TapSuite
