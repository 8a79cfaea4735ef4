import Mathlib.Data.List.Nodup
import TapSuite.Proofs.Results
import TapSuite.Toml.Parser

/-!
# Keys of a document

No key occurs twice in the table that a document defines.

    parse text = .ok t → (t.map (·.1)).Nodup                                     (nodup_keys_parse)

Every line puts at most one new member into the outermost table, under a key that it does not hold
yet; or it changes a member in its place.
-/

namespace TapSuite.Toml

/-! ## Members -/

def keys (members : Members) : List String := members.map (·.1)

theorem keys_setMember (key : String) (node : Node) (members : Members) :
    keys (setMember key node members) =
      if key ∈ keys members then keys members else keys members ++ [key] := by
  induction members with
  | nil => rfl
  | cons member rest ih =>
    obtain ⟨k, n⟩ := member
    by_cases hk : k = key
    · rw [setMember, if_pos hk, if_pos (by rw [← hk]; exact List.mem_cons_self)]
      rfl
    · have hrest : keys (setMember key node ((k, n) :: rest)) =
          k :: keys (setMember key node rest) := by
        rw [setMember, if_neg hk]
        rfl
      have hmem : key ∈ keys ((k, n) :: rest) ↔ key ∈ keys rest :=
        List.mem_cons.trans (or_iff_right fun h => hk h.symm)
      rw [hrest, ih]
      simp only [hmem]
      split <;> rfl

theorem nodup_setMember {members : Members} (h : (keys members).Nodup) (key : String)
    (node : Node) : (keys (setMember key node members)).Nodup := by
  rw [keys_setMember]
  split
  · exact h
  · next hkey => exact List.nodup_append_comm.mp (List.nodup_cons.mpr ⟨hkey, h⟩)

/-- A change at the table itself or inside of it leaves its keys apart, if the change itself
does. -/
theorem nodup_changeAt {dotted : Bool} {path : List String}
    {change : Origin → Members → Option Members} {origin : Origin} {members members' : Members}
    (hchange : ∀ m, change origin members = some m → (keys m).Nodup)
    (h : (keys members).Nodup) (hrun : changeAt dotted path change origin members = some members') :
    (keys members').Nodup := by
  cases path with
  | nil => exact hchange members' hrun
  | cons key path =>
    rw [changeAt] at hrun
    split at hrun
    · obtain ⟨inner, -, rfl⟩ := Option.map_eq_some_iff.mp hrun
      exact nodup_setMember h key _
    · cases hrun
    · split at hrun
      · cases hrun
      · obtain ⟨inner, -, rfl⟩ := Option.map_eq_some_iff.mp hrun
        exact nodup_setMember h key _
    · obtain ⟨last, -, rfl⟩ := Option.map_eq_some_iff.mp hrun
      exact nodup_setMember h key _

theorem nodup_define {viaDots : Bool} {key : String} {v : Value} {origin : Origin}
    {members members' : Members} (h : (keys members).Nodup)
    (hrun : define viaDots key v origin members = some members') : (keys members').Nodup := by
  unfold define at hrun
  split at hrun
  · cases hrun
  split at hrun
  · cases hrun
  cases hrun
  exact nodup_setMember h key _

theorem nodup_close {header : Header} {inner : Members} {origin : Origin}
    {members members' : Members} (h : (keys members).Nodup)
    (hrun : close header inner origin members = some members') : (keys members').Nodup := by
  unfold close at hrun
  split at hrun
  · split at hrun <;> cases hrun <;> exact nodup_setMember h _ _
  · cases hrun
    exact nodup_setMember h _ _

/-! ## Documents -/

theorem orMalformed_eq_ok {α : Type} {x : Option α} {a : α} :
    orMalformed x = .ok a ↔ x = some a := by
  cases x with
  | none => exact ⟨fun h => (by cases h), fun h => (by cases h)⟩
  | some b => exact ⟨fun h => by cases h; rfl, fun h => by cases h; rfl⟩

/-- No key occurs twice in the outermost table of a document in the reading.  Before the first
header that is the table that entries go to. -/
structure Draft.Sound (d : Draft) : Prop where
  finished : (keys d.finished).Nodup
  entries : d.header = none → (keys d.entries).Nodup

theorem Draft.Sound.finish {d : Draft} (h : d.Sound) {members : Members}
    (hrun : d.finish? = some members) : (keys members).Nodup := by
  unfold Draft.finish? at hrun
  split at hrun
  · next hheader =>
    cases hrun
    exact h.entries hheader
  · exact nodup_changeAt (fun _ => nodup_close h.finished) h.finished hrun

theorem Draft.Sound.openSection {d d' : Draft} (h : d.Sound) {isNext : Bool} {parts : List Word}
    (hrun : d.openSection isNext parts = .ok d') : d'.Sound := by
  simp only [Draft.openSection, bind_eq_ok, orMalformed_eq_ok] at hrun
  obtain ⟨finished, hfinished, ⟨path, key⟩, -, entries, -, hdraft⟩ := hrun
  cases hdraft
  exact ⟨h.finish hfinished, fun hnone => by cases hnone⟩

theorem Draft.Sound.add {d d' : Draft} (h : d.Sound) {line : Line} (hrun : d.add line = .ok d') :
    d'.Sound := by
  cases line with
  | table parts => exact h.openSection hrun
  | nextTable parts => exact h.openSection hrun
  | entry parts item =>
    simp only [Draft.add, bind_eq_ok, orMalformed_eq_ok] at hrun
    obtain ⟨⟨path, key⟩, -, v, -, entries, hentries, hdraft⟩ := hrun
    cases hdraft
    refine ⟨h.finished, fun hnone => ?_⟩
    have hbefore := h.entries hnone
    exact nodup_changeAt (fun _ => nodup_define hbefore) hbefore hentries

theorem Draft.Sound.addAll {d d' : Draft} (h : d.Sound) {lines : List Line}
    (hrun : lines.foldlM Draft.add d = .ok d') : d'.Sound := by
  induction lines generalizing d with
  | nil =>
    cases hrun
    exact h
  | cons line lines ih =>
    rw [List.foldlM_cons, bind_eq_ok] at hrun
    obtain ⟨next, hnext, hrest⟩ := hrun
    exact ih (h.add hnext) hrest

theorem keys_membersToTable (members : Members) :
    (membersToTable members).map (·.1) = keys members := by
  induction members with
  | nil => rw [membersToTable]; rfl
  | cons member rest ih =>
    rw [membersToTable, List.map_cons, ih]
    rfl

/-- No key occurs twice in the table of a document. -/
theorem nodup_keys_parse {text : String} {t : Table} (h : parse text = .ok t) :
    (t.map (·.1)).Nodup := by
  simp only [parse, bind_eq_ok, orMalformed_eq_ok] at h
  obtain ⟨lines, -, draft, hdraft, members, hmembers, htable⟩ := h
  cases htable
  have hstart : ({} : Draft).Sound := ⟨List.nodup_nil, fun _ => List.nodup_nil⟩
  have hsound : draft.Sound := hstart.addAll hdraft
  rw [keys_membersToTable]
  exact hsound.finish hmembers

end TapSuite.Toml
