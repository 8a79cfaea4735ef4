import TapSuite.Workspace.Files

/-!
# Where steps lead

Following steps, with a bound on the links on the way, finds the position that they lead to through
as many links at most.

    w.follow links dir path = .ok p ↔ ∃ n ≤ links, w.Leads n dir path p        (follow_eq_ok_iff)

What follows some steps is followed from where these lead, with the links that they leave.
-/

namespace TapSuite.Workspace

variable {w : Workspace} {links : Nat} {dir p : Position} {name : Bytes} {rest : List Bytes}

/-! ## One step -/

theorem follow_stay (hdir : w.isDirectoryAt dir) (hname : stays name) :
    w.follow links dir (name :: rest) = w.follow links dir rest := by
  rw [follow, if_neg (by simp [hdir]), if_pos hname]

theorem follow_up (hdir : w.isDirectoryAt dir) :
    w.follow links dir (dotDot :: rest) = w.follow links dir.dropLast rest := by
  rw [follow, if_neg (by simp [hdir]), if_neg (by decide), if_pos rfl]

/-- Whether a name stands for an entry of a directory. -/
structure Finds (w : Workspace) (dir : Position) (name : Bytes) (e : Entry) : Prop where
  directory : w.isDirectoryAt dir
  stays : ¬ stays name
  up : name ≠ dotDot
  entry : w.entry? dir name = .ok (some e)

theorem Finds.follow_link {target : Bytes} (h : w.Finds dir name (.link target)) :
    w.follow (links + 1) dir (name :: rest) =
      w.follow links (start target dir) (steps target ++ rest) := by
  rw [follow, if_neg (by simp [h.directory]), if_neg h.stays, if_neg h.up, h.entry]

theorem Finds.follow_enter {e : Entry} (h : w.Finds dir name e)
    (hlink : ∀ target, e ≠ .link target) :
    w.follow links dir (name :: rest) = w.follow links (dir ++ [name]) rest := by
  rw [follow, if_neg (by simp [h.directory]), if_neg h.stays, if_neg h.up, h.entry]
  cases e with
  | link target => exact absurd rfl (hlink target)
  | file contents => rfl
  | directory => rfl

/-! ## All steps -/

/-- Whether steps lead from a directory to a position through a number of links. -/
inductive Leads (w : Workspace) : Nat → Position → List Bytes → Position → Prop
  | done (dir : Position) : Leads w 0 dir [] dir
  | stay {n : Nat} {dir p : Position} {name : Bytes} {rest : List Bytes}
      (hdir : w.isDirectoryAt dir) (hname : stays name) (h : Leads w n dir rest p) :
      Leads w n dir (name :: rest) p
  | up {n : Nat} {dir p : Position} {rest : List Bytes}
      (hdir : w.isDirectoryAt dir) (h : Leads w n dir.dropLast rest p) :
      Leads w n dir (dotDot :: rest) p
  /-- The target of a link stands for its name. -/
  | link {n : Nat} {dir p : Position} {name target : Bytes} {rest : List Bytes}
      (hname : w.Finds dir name (.link target))
      (h : Leads w n (start target dir) (steps target ++ rest) p) :
      Leads w (n + 1) dir (name :: rest) p
  | enter {n : Nat} {dir p : Position} {name : Bytes} {e : Entry} {rest : List Bytes}
      (hname : w.Finds dir name e) (hlink : ∀ target, e ≠ .link target)
      (h : Leads w n (dir ++ [name]) rest p) :
      Leads w n dir (name :: rest) p

/-- What comes after some steps is followed from where these lead. -/
theorem Leads.follow_append {n : Nat} {path : List Bytes} (h : w.Leads n dir path p)
    (hn : n ≤ links) (more : List Bytes) :
    w.follow links dir (path ++ more) = w.follow (links - n) p more := by
  induction h generalizing links with
  | done dir => rfl
  | stay hdir hname _ ih => exact (follow_stay hdir hname).trans (ih hn)
  | up hdir _ ih => exact (follow_up hdir).trans (ih hn)
  | link hname _ ih =>
    cases links with
    | zero => exact absurd hn (Nat.not_succ_le_zero _)
    | succ links =>
      rw [List.cons_append, hname.follow_link, ← List.append_assoc, Nat.add_sub_add_right]
      exact ih (Nat.le_of_succ_le_succ hn)
  | enter hname hlink _ ih => exact (hname.follow_enter hlink).trans (ih hn)

/-- Following finds only where steps lead. -/
theorem exists_leads_of_follow {path : List Bytes} (h : w.follow links dir path = .ok p) :
    ∃ n ≤ links, w.Leads n dir path p := by
  induction links, dir, path using follow.induct (w := w) with
  | case1 links dir =>
    rw [follow] at h
    cases h
    exact ⟨0, Nat.zero_le _, .done _⟩
  | case2 links dir name rest hdir =>
    rw [follow, if_pos hdir] at h
    cases h
  | case3 links dir name rest hdir hname ih =>
    rw [Bool.not_eq_false] at hdir
    rw [follow_stay hdir hname] at h
    obtain ⟨n, hn, hleads⟩ := ih h
    exact ⟨n, hn, .stay hdir hname hleads⟩
  | case4 links dir rest hdir _ ih =>
    rw [Bool.not_eq_false] at hdir
    rw [follow_up hdir] at h
    obtain ⟨n, hn, hleads⟩ := ih h
    exact ⟨n, hn, .up hdir hleads⟩
  | case5 links dir name rest hdir hname hup fault hentry =>
    rw [follow, if_neg hdir, if_neg hname, if_neg hup, hentry] at h
    cases h
  | case6 links dir name rest hdir hname hup hentry =>
    rw [follow, if_neg hdir, if_neg hname, if_neg hup, hentry] at h
    cases h
  | case7 dir name rest hdir hname hup target hentry =>
    rw [follow, if_neg hdir, if_neg hname, if_neg hup, hentry] at h
    cases h
  | case8 dir name rest hdir hname hup target hentry links ih =>
    have hfinds : w.Finds dir name (.link target) :=
      ⟨by rwa [Bool.not_eq_false] at hdir, hname, hup, hentry⟩
    rw [hfinds.follow_link] at h
    obtain ⟨n, hn, hleads⟩ := ih h
    exact ⟨n + 1, Nat.succ_le_succ hn, .link hfinds hleads⟩
  | case9 links dir name rest hdir hname hup e hlink hentry ih =>
    have hfinds : w.Finds dir name e :=
      ⟨by rwa [Bool.not_eq_false] at hdir, hname, hup, hentry⟩
    rw [hfinds.follow_enter hlink] at h
    obtain ⟨n, hn, hleads⟩ := ih h
    exact ⟨n, hn, .enter hfinds hlink hleads⟩

theorem follow_eq_ok_iff {path : List Bytes} :
    w.follow links dir path = .ok p ↔ ∃ n ≤ links, w.Leads n dir path p := by
  constructor
  · exact exists_leads_of_follow
  · rintro ⟨n, hn, h⟩
    have hfollow := h.follow_append hn []
    rw [List.append_nil, follow] at hfollow
    exact hfollow

/-- Steps lead where the later ones lead from where the earlier ones do. -/
theorem Leads.split {n : Nat} {path more : List Bytes} (h : w.Leads n dir (path ++ more) p) :
    ∃ m k q, n = m + k ∧ w.Leads m dir path q ∧ w.Leads k q more p := by
  generalize hall : path ++ more = all at h
  -- either no step is an earlier one, or the first one is; a link's steps are earlier ones then
  induction h generalizing path with
  | done dir =>
    obtain ⟨rfl, rfl⟩ := List.append_eq_nil_iff.mp hall
    exact ⟨0, 0, dir, rfl, .done dir, .done dir⟩
  | stay hdir hname h ih =>
    obtain ⟨rfl, rfl⟩ | ⟨path, rfl, rfl⟩ := List.append_eq_cons_iff.mp hall
    · exact ⟨0, _, _, (Nat.zero_add _).symm, .done _, .stay hdir hname h⟩
    · obtain ⟨m, k, q, rfl, hq, hp⟩ := ih rfl
      exact ⟨m, k, q, rfl, .stay hdir hname hq, hp⟩
  | up hdir h ih =>
    obtain ⟨rfl, rfl⟩ | ⟨path, rfl, rfl⟩ := List.append_eq_cons_iff.mp hall
    · exact ⟨0, _, _, (Nat.zero_add _).symm, .done _, .up hdir h⟩
    · obtain ⟨m, k, q, rfl, hq, hp⟩ := ih rfl
      exact ⟨m, k, q, rfl, .up hdir hq, hp⟩
  | link hname h ih =>
    obtain ⟨rfl, rfl⟩ | ⟨path, rfl, rfl⟩ := List.append_eq_cons_iff.mp hall
    · exact ⟨0, _, _, (Nat.zero_add _).symm, .done _, .link hname h⟩
    · obtain ⟨m, k, q, rfl, hq, hp⟩ := ih (List.append_assoc _ _ _)
      exact ⟨m + 1, k, q, Nat.add_right_comm m k 1, .link hname hq, hp⟩
  | enter hname hlink h ih =>
    obtain ⟨rfl, rfl⟩ | ⟨path, rfl, rfl⟩ := List.append_eq_cons_iff.mp hall
    · exact ⟨0, _, _, (Nat.zero_add _).symm, .done _, .enter hname hlink h⟩
    · obtain ⟨m, k, q, rfl, hq, hp⟩ := ih rfl
      exact ⟨m, k, q, rfl, .enter hname hlink hq, hp⟩

end TapSuite.Workspace
