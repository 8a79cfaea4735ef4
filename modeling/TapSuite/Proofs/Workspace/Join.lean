import Mathlib.Data.List.Basic
import TapSuite.Proofs.Path.Join
import TapSuite.Proofs.Text.Utf8
import TapSuite.Proofs.Workspace.Follow

/-!
# Entries of a directory

A path below a directory leads where the name leads from that directory, as long as the system takes
the whole path: it must not be too long, and the links on the way to the directory count.

    w.isFile (join dir text) ↔ (encode (join dir text)).length < pathLimit ∧
      w.LeadsToFile (linkLimit - used) pos (encode text)                      (isFile_join_iff)
-/

namespace TapSuite.Workspace

open Text Text.Utf8

/-! ## Names -/

/-- Whether bytes are a name that a directory can hold. -/
structure Legal (name : Bytes) : Prop where
  nonempty : name ≠ []
  slash : slash ∉ name
  nul : 0 ∉ name
  dot : name ≠ dot
  dotDot : name ≠ dotDot

instance (name : Bytes) : Decidable (Legal name) :=
  decidable_of_iff (name ≠ [] ∧ slash ∉ name ∧ 0 ∉ name ∧ name ≠ dot ∧ name ≠ dotDot)
    ⟨fun ⟨hne, hslash, hnul, hdot, hdotDot⟩ => ⟨hne, hslash, hnul, hdot, hdotDot⟩,
      fun ⟨hne, hslash, hnul, hdot, hdotDot⟩ => ⟨hne, hslash, hnul, hdot, hdotDot⟩⟩

theorem encode_slash (t : List Char) : encode ('/' :: t) = slash :: encode t := rfl

theorem Legal.plain {text : List Char} (h : Legal (encode text)) : Path.Plain text where
  nonempty := by
    rintro rfl
    exact h.nonempty rfl
  slash hmem := by
    obtain ⟨s, t, rfl⟩ := List.append_of_mem hmem
    refine h.slash ?_
    rw [encode_append, encode_slash]
    simp
  here := by
    rintro rfl
    exact h.dot rfl
  up := by
    rintro rfl
    exact h.dotDot rfl

/-! ## Steps of a path below a directory -/

/-- The pieces of a path between its slashes, without the empty ones. -/
def pieces (path : Bytes) : List Bytes := (segments slash path).filter (· ≠ [])

theorem pieces_append (a b : Bytes) : pieces (a ++ slash :: b) = pieces a ++ pieces b := by
  simp only [pieces, ← List.filterMap_eq_filter]
  exact filterMap_segments_append rfl a b

theorem pieces_of_not_mem {s : Bytes} (h : slash ∉ s) (hne : s ≠ []) : pieces s = [s] := by
  rw [pieces, segments_of_not_mem h hne]
  simp [hne]

/-- A slash at the end asks for a directory, which changes nothing where there is one. -/
theorem Leads.pieces {w : Workspace} {n : Nat} {dir p : Position} {path : Bytes}
    (h : w.Leads n dir (steps path) p) : w.Leads n dir (pieces path) p := by
  unfold steps at h
  split at h
  · obtain ⟨m, k, q, rfl, hq, hp⟩ := h.split
    cases hp with
    | stay hdir hname hp =>
      cases hp
      exact hq
    | link hname => exact absurd (by decide) hname.stays
    | enter hname => exact absurd (by decide) hname.stays
  · rwa [List.append_nil] at h

/-- The bytes of a path below a directory. -/
theorem exists_encode_join_eq {dir text : List Char} (hdir : dir ≠ []) (h : Legal (encode text)) :
    ∃ d, (encode dir = d ∨ encode dir = d ++ [slash]) ∧
      encode (Path.join dir text) = d ++ slash :: encode text := by
  obtain ⟨d, hd, hjoin⟩ := Path.exists_join_eq hdir h.plain.head
  refine ⟨encode d, ?_, by rw [hjoin, encode_append, encode_slash]⟩
  rcases hd with rfl | rfl
  · exact .inl rfl
  · exact .inr (encode_append _ _)

theorem steps_join {dir text : List Char} (hdir : dir ≠ []) (h : Legal (encode text)) :
    steps (encode (Path.join dir text)) = pieces (encode dir) ++ [encode text] := by
  obtain ⟨d, hd, hjoin⟩ := exists_encode_join_eq hdir h
  have hpieces : pieces (encode dir) = pieces d := by
    rcases hd with hd | hd
    · rw [hd]
    · rw [hd, pieces_append]
      exact List.append_nil _
  have hlast : (d ++ slash :: encode text).getLast? ≠ some slash := by
    rw [List.getLast?_append_of_ne_nil _ (List.cons_ne_nil _ _),
      List.getLast?_cons_of_ne_nil h.nonempty]
    exact fun hlast => h.slash (List.mem_of_getLast? hlast)
  change pieces _ ++ _ = _
  rw [hjoin, if_neg hlast, List.append_nil, pieces_append, pieces_of_not_mem h.slash h.nonempty,
    hpieces]

theorem start_join {dir text : List Char} (hdir : dir ≠ []) (h : Legal (encode text))
    (here : Position) :
    start (encode (Path.join dir text)) here = start (encode dir) here := by
  have hhead : (encode (Path.join dir text)).head? = (encode dir).head? := by
    obtain ⟨d, hd, hjoin⟩ := exists_encode_join_eq hdir h
    rw [hjoin]
    cases d with
    | nil =>
      rcases hd with hd | hd
      · exact absurd (encode_eq_nil_iff.mp hd) hdir
      · rw [hd]
        rfl
    | cons b d => rcases hd with hd | hd <;> rw [hd] <;> rfl
  rw [start, start, hhead]

/-! ## Files below a directory -/

theorem pathBytes_eq_ok_iff {path : String} {bytes : Bytes} :
    pathBytes path = .ok bytes ↔
      encode path.toList = bytes ∧ 0 ∉ bytes ∧ bytes ≠ [] ∧ bytes.length < pathLimit := by
  simp only [pathBytes]
  constructor
  · intro h
    split at h
    · cases h
    split at h
    · cases h
    split at h
    · cases h
    next hnul hempty hlong =>
    obtain rfl := Except.ok.inj h
    exact ⟨rfl, by simpa using hnul, by simpa using hempty, Nat.lt_of_not_le hlong⟩
  · rintro ⟨rfl, hnul, hempty, hlong⟩
    rw [if_neg (by simpa using hnul), if_neg (by simpa using hempty), if_neg (Nat.not_le.mpr hlong)]

variable {w : Workspace}

theorem resolve_eq_ok_iff {path : String} {p : Position} :
    w.resolve path = .ok p ↔ pathBytes path = .ok (encode path.toList) ∧
      w.follow linkLimit (start (encode path.toList) w.here) (steps (encode path.toList)) =
        .ok p := by
  unfold resolve
  cases hbytes : pathBytes path with
  | error fault => simp
  | ok bytes =>
    obtain ⟨rfl, -⟩ := pathBytes_eq_ok_iff.mp hbytes
    simp

/-- Whether the system takes a path and gets to a position, through a number of links. -/
structure Locates (w : Workspace) (path : String) (used : Nat) (p : Position) : Prop where
  taken : pathBytes path = .ok (encode path.toList)
  links : used ≤ linkLimit
  leads : w.Leads used (start (encode path.toList) w.here) (steps (encode path.toList)) p

theorem exists_locates_of_resolve {path : String} {p : Position} (h : w.resolve path = .ok p) :
    ∃ used, w.Locates path used p := by
  obtain ⟨htaken, hfollow⟩ := resolve_eq_ok_iff.mp h
  obtain ⟨used, hused, hleads⟩ := exists_leads_of_follow hfollow
  exact ⟨used, htaken, hused, hleads⟩

/-- A path whose names are listed leads to the directory that has them. -/
theorem exists_locates_of_list {dir : String} {names : List Bytes} (h : w.list dir = .ok names) :
    ∃ pos used, w.Locates dir used pos ∧ names = w.names pos := by
  unfold list at h
  split at h
  · cases h
  next pos hpos =>
  split at h
  · obtain ⟨used, hlocates⟩ := exists_locates_of_resolve hpos
    exact ⟨pos, used, hlocates, (Except.ok.inj h).symm⟩
  · cases h

theorem isFile_eq_true_iff {path : String} :
    w.isFile path ↔ ∃ p contents, w.resolve path = .ok p ∧ w.lookUp? p = some (.file contents) := by
  unfold isFile find?
  cases w.resolve path with
  | error fault => simp
  | ok p =>
    cases hentry : w.lookUp? p with
    | none => simp [hentry]
    | some e => cases e <;> simp [Entry.isFile, hentry]

/-- The system takes a path below a directory unless it is too long. -/
theorem pathBytes_join_iff {dir : String} (hdir : pathBytes dir = .ok (encode dir.toList))
    {text : List Char} (htext : Legal (encode text)) :
    pathBytes (.ofList (Path.join dir.toList text)) = .ok (encode (Path.join dir.toList text)) ↔
      (encode (Path.join dir.toList text)).length < pathLimit := by
  obtain ⟨-, hnul, hne, -⟩ := pathBytes_eq_ok_iff.mp hdir
  obtain ⟨d, hd, hjoin⟩ := exists_encode_join_eq (fun h => hne (encode_eq_nil_iff.mpr h)) htext
  have hnul' : 0 ∉ d := by
    rcases hd with hd | hd
    · rwa [hd] at hnul
    · rw [hd] at hnul
      exact fun hmem => hnul (List.mem_append_left _ hmem)
  rw [pathBytes_eq_ok_iff, String.toList_ofList, hjoin]
  simp [hnul', htext.nul, slash]

/-- Whether a name leads from a directory to a file, through a number of links at most. -/
def LeadsToFile (w : Workspace) (links : Nat) (dir : Position) (name : Bytes) : Prop :=
  ∃ n ≤ links, ∃ p contents, w.Leads n dir [name] p ∧ w.lookUp? p = some (.file contents)

/-- A path below a directory leads to a file exactly if it is not too long and the name leads to
one, through no more links than the way to the directory leaves. -/
theorem isFile_join_iff {dir : String} {pos : Position} {used : Nat} (hdir : w.Locates dir used pos)
    {text : List Char} (htext : Legal (encode text)) :
    w.isFile (.ofList (Path.join dir.toList text)) ↔
      (encode (Path.join dir.toList text)).length < pathLimit ∧
        w.LeadsToFile (linkLimit - used) pos (encode text) := by
  obtain ⟨htaken, hused, hleads⟩ := hdir
  have hne : dir.toList ≠ [] := by
    obtain ⟨-, -, hne, -⟩ := pathBytes_eq_ok_iff.mp htaken
    exact fun h => hne (encode_eq_nil_iff.mpr h)
  have hresolve : ∀ p, w.resolve (.ofList (Path.join dir.toList text)) = .ok p ↔
      (encode (Path.join dir.toList text)).length < pathLimit ∧
      ∃ n ≤ linkLimit - used, w.Leads n pos [encode text] p := by
    intro p
    rw [resolve_eq_ok_iff, String.toList_ofList, pathBytes_join_iff htaken htext,
      start_join hne htext, steps_join hne htext, hleads.pieces.follow_append hused,
      follow_eq_ok_iff]
  rw [isFile_eq_true_iff]
  constructor
  · rintro ⟨p, contents, hp, hfile⟩
    obtain ⟨hlong, n, hn, hname⟩ := (hresolve p).mp hp
    exact ⟨hlong, n, hn, p, contents, hname, hfile⟩
  · rintro ⟨hlong, n, hn, p, contents, hname, hfile⟩
    exact ⟨p, contents, (hresolve p).mpr ⟨hlong, n, hn, hname⟩, hfile⟩

end TapSuite.Workspace
