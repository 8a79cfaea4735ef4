import TapSuite.Proofs.Results
import TapSuite.Report.Artifact
import TapSuite.Suite.Discovery

/-!
# What the contents of a file have no part in

Where paths lead, what a directory lists, which suites are found and whether a report can be written
does not depend on what stands in a file.  So two workspaces that differ in the contents of one file
only give the same answers, and still differ there only when a report was written.

    (w.emptied p).discover dir suffix = w.discover dir suffix                     (discover_emptied)
    w'.emptied p = w.emptied p →
      (w'.writeArtifact dir name t).1 = (w.writeArtifact dir name t).1    (writeArtifact_of_emptied)
-/

namespace TapSuite.Workspace

/-! ## Emptied files -/

/-- An entry at a position `q`, without its contents if it is the file at `p`. -/
def Entry.emptiedAt (p q : Position) : Entry → Entry
  | .file contents => .file (if q = p then [] else contents)
  | e => e

/-- The workspace with nothing in the file at a position. -/
def emptied (w : Workspace) (p : Position) : Workspace :=
  { w with entries := w.entries.map fun (q, e) => (q, e.emptiedAt p q) }

variable {w w' : Workspace} {p : Position}

@[simp] theorem here_emptied (w : Workspace) (p : Position) : (w.emptied p).here = w.here := rfl

theorem lookUp?_emptied (w : Workspace) (p q : Position) :
    (w.emptied p).lookUp? q = (w.lookUp? q).map (Entry.emptiedAt p q) := by
  by_cases hq : q = []
  · simp [lookUp?, hq, Entry.emptiedAt]
  · simp only [lookUp?, if_neg hq, emptied, lookup_map]

@[simp] theorem emptiedAt_eq_directory {p q : Position} {e : Entry} :
    e.emptiedAt p q = .directory ↔ e = .directory := by
  cases e <;> simp [Entry.emptiedAt]

@[simp] theorem isDirectoryAt_emptied (w : Workspace) (p q : Position) :
    (w.emptied p).isDirectoryAt q = w.isDirectoryAt q := by
  simp only [isDirectoryAt, lookUp?_emptied]
  cases w.lookUp? q <;> simp

theorem entry?_emptied (w : Workspace) (p dir : Position) (name : Bytes) :
    Workspace.entry? (w.emptied p) dir name =
      ( w.entry? dir name).map (·.map (Entry.emptiedAt p (dir ++ [name]))) := by
  unfold entry?
  split
  · rfl
  · rw [lookUp?_emptied]
    rfl

/-! ## Paths -/

theorem follow_emptied (w : Workspace) (p : Position) (links : Nat) (dir : Position)
    (path : List Bytes) : (w.emptied p).follow links dir path = w.follow links dir path := by
  fun_induction w.follow links dir path
  case case9 links dir name rest hdir hname hup e hlink hentry ih =>
    -- what is no link is entered, whether it is a file or a directory
    cases e with
    | link target => exact absurd rfl (hlink target)
    | file contents => simp_all [follow, entry?_emptied, Except.map, Entry.emptiedAt]
    | directory => simp_all [follow, entry?_emptied, Except.map, Entry.emptiedAt]
  all_goals simp_all [follow, entry?_emptied, Except.map, Entry.emptiedAt]

theorem placeFrom_emptied (w : Workspace) (p : Position) (links : Nat) (dir : Position)
    (path : List Bytes) : (w.emptied p).placeFrom links dir path = w.placeFrom links dir path := by
  fun_induction w.placeFrom links dir path
  all_goals simp_all [placeFrom, entry?_emptied, Except.map, Entry.emptiedAt]

@[simp] theorem resolve_emptied (w : Workspace) (p : Position) (path : String) :
    (w.emptied p).resolve path = w.resolve path := by
  simp only [resolve, here_emptied, follow_emptied]

@[simp] theorem place_emptied (w : Workspace) (p : Position) (path : String) :
    (w.emptied p).place path = w.place path := by
  simp only [place, here_emptied, placeFrom_emptied]

@[simp] theorem isFile_emptied (w : Workspace) (p : Position) (path : String) :
    (w.emptied p).isFile path = w.isFile path := by
  simp only [isFile, find?, resolve_emptied]
  cases w.resolve path with
  | error fault => rfl
  | ok q =>
    simp only [lookUp?_emptied]
    rcases w.lookUp? q with _ | e
    · rfl
    · cases e <;> rfl

@[simp] theorem list_emptied (w : Workspace) (p : Position) (path : String) :
    (w.emptied p).list path = w.list path := by
  have hnames (dir : Position) : (w.emptied p).names dir = w.names dir := by
    simp only [names, emptied, List.filterMap_map]
    rfl
  simp only [list, resolve_emptied, isDirectoryAt_emptied, hnames]

/-- Suites are found by their names, whatever they hold. -/
theorem discover_emptied (w : Workspace) (p : Position) (dir suffix : String) :
    (w.emptied p).discover dir suffix = w.discover dir suffix := by
  have hsuite : (w.emptied p).suite? dir suffix = w.suite? dir suffix := by
    funext name
    simp only [suite?, isFile_emptied]
  simp only [discover, list_emptied, hsuite]

/-! ## Directories -/

theorem emptied_add_directory (w : Workspace) (p q : Position) :
    (w.add q .directory).emptied p = (w.emptied p).add q .directory := by
  simp [add, emptied, Entry.emptiedAt]

theorem makeDirectory_emptied (w : Workspace) (p first : Position) (path : List Bytes) :
    (w.emptied p).makeDirectory first path = (w.makeDirectory first path).map (·.emptied p) := by
  simp only [makeDirectory, follow_emptied, isDirectoryAt_emptied, entry?_emptied]
  cases path.getLast? with
  | none => rfl
  | some name =>
  cases w.follow linkLimit first path.dropLast with
  | error fault => rfl
  | ok dir =>
  by_cases hdir : w.isDirectoryAt dir = false
  · simp [hdir, Except.map]
  by_cases hname : stays name ∨ name = dotDot
  · simp [hdir, hname, Except.map]
  simp only [if_neg hdir, if_neg hname]
  rcases w.entry? dir name with fault | _ | e
  · rfl
  · exact congrArg Except.ok (emptied_add_directory w p _).symm
  · rfl

theorem ensureDirectory_emptied (w : Workspace) (p first : Position) (path : List Bytes) :
    (w.emptied p).ensureDirectory first path =
      ((w.ensureDirectory first path).1, (w.ensureDirectory first path).2.emptied p) := by
  have hleads : (w.emptied p).leadsToDirectory first path = w.leadsToDirectory first path := by
    simp only [leadsToDirectory, follow_emptied, isDirectoryAt_emptied]
  simp only [ensureDirectory, makeDirectory_emptied, hleads]
  cases w.makeDirectory first path <;> rfl

theorem ensureAll_emptied (w : Workspace) (p first : Position) (path : List Bytes)
    (parents : List (List Bytes)) :
    (w.emptied p).ensureAll first path parents =
      ((w.ensureAll first path parents).1, (w.ensureAll first path parents).2.emptied p) := by
  induction parents generalizing path with
  | nil => exact ensureDirectory_emptied w p first path
  | cons parent rest ih =>
    simp only [ensureAll, makeDirectory_emptied, ih]
    rcases w.makeDirectory first path with fault | made
    · -- the ancestors are made only where one of them is missing
      by_cases hfault : fault = .notFound
      · subst hfault
        rcases w.ensureAll first parent rest with ⟨fault | _, parents⟩
        · rfl
        · exact ensureDirectory_emptied parents p first path
      · have hensured := ensureDirectory_emptied w p first path
        cases fault
        case notFound => exact absurd rfl hfault
        all_goals exact hensured
    · exact ensureDirectory_emptied w p first path

theorem makeDirectories_emptied (w : Workspace) (p : Position) (path : String) :
    (w.emptied p).makeDirectories path =
      ((w.makeDirectories path).1, (w.makeDirectories path).2.emptied p) := by
  unfold makeDirectories
  split
  · rfl
  split
  · rfl
  · exact ensureAll_emptied w p _ _ _

/-! ## Writing -/

@[simp] theorem emptiedAt_emptiedAt (p q : Position) (e : Entry) :
    (e.emptiedAt p q).emptiedAt p q = e.emptiedAt p q := by
  cases e with
  | file contents => by_cases hq : q = p <;> simp [Entry.emptiedAt, hq]
  | directory => rfl
  | link target => rfl

theorem emptied_emptied (w : Workspace) (p : Position) : (w.emptied p).emptied p = w.emptied p := by
  simp [emptied]

theorem emptied_put_old {w : Workspace} {q : Position} (hold : (w.entries.lookup q).isSome)
    (p : Position) (contents : Bytes) :
    (w.put q contents).emptied p =
      { w with entries := w.entries.map fun (k, e) =>
          (k, (if k = q then .file contents else e : Entry).emptiedAt p k) } := by
  rw [put, if_pos hold]
  simp only [emptied, List.map_map]
  congr 1
  refine List.map_congr_left fun ⟨k, e⟩ _ => ?_
  by_cases hk : k = q <;> simp [hk]

/-- A file that is written is the same afterwards, whatever it held before. -/
theorem put_emptied (w : Workspace) (p q : Position) (contents : Bytes) :
    ((w.emptied p).put q contents).emptied p = (w.put q contents).emptied p := by
  have hlookup : ((w.emptied p).entries.lookup q).isSome = (w.entries.lookup q).isSome := by
    rw [emptied, lookup_map, Option.isSome_map]
  by_cases hold : (w.entries.lookup q).isSome
  · rw [emptied_put_old hold, emptied_put_old (hlookup ▸ hold)]
    simp only [emptied, List.map_map]
    congr 1
    refine List.map_congr_left fun ⟨k, e⟩ _ => ?_
    by_cases hk : k = q <;> simp [hk]
  · rw [put, put, hlookup, if_neg hold, if_neg hold]
    simp [add, emptied]

theorem writeText_emptied (w : Workspace) (p : Position) (path contents : String) :
    ((w.emptied p).writeText path contents).map (·.emptied p) =
      (w.writeText path contents).map (·.emptied p) := by
  simp only [writeText, place_emptied]
  cases w.place path with
  | error fault => rfl
  | ok q => exact congrArg Except.ok (put_emptied w p q _)

theorem writeArtifact_emptied (w : Workspace) (p : Position) (dir name contents : String) :
    ((w.emptied p).writeArtifact dir name contents).1 = (w.writeArtifact dir name contents).1 ∧
      ((w.emptied p).writeArtifact dir name contents).2.emptied p =
        (w.writeArtifact dir name contents).2.emptied p := by
  simp only [writeArtifact, makeDirectories_emptied]
  rcases w.makeDirectories dir with ⟨fault | _, made⟩
  · exact ⟨rfl, emptied_emptied made p⟩
  have hwrite := writeText_emptied made p (artifactPath dir name) contents
  dsimp only
  cases hold : made.writeText (artifactPath dir name) contents <;>
    cases hnew : (made.emptied p).writeText (artifactPath dir name) contents <;>
    simp_all [Except.map, emptied_emptied]

/-- A report is written alike into workspaces that differ in the contents of one file. -/
theorem writeArtifact_of_emptied (h : w'.emptied p = w.emptied p) (dir name contents : String) :
    (w'.writeArtifact dir name contents).1 = (w.writeArtifact dir name contents).1 ∧
      (w'.writeArtifact dir name contents).2.emptied p =
        (w.writeArtifact dir name contents).2.emptied p := by
  have hnew := writeArtifact_emptied w' p dir name contents
  have hold := writeArtifact_emptied w p dir name contents
  rw [h] at hnew
  exact ⟨hnew.1.symm.trans hold.1, hnew.2.symm.trans hold.2⟩

end TapSuite.Workspace
