import Mathlib
import TapSuite.Proofs.Run.Steps
import TapSuite.Proofs.Suite.Registry
import TapSuite.Proofs.Workspace.Join
import TapSuite.Suite.Discovery

/-!
# Discovered suites

The suites of a directory are those of its names that write a text with the suffix at its end and
lead to a file, in the order of the names, and each has a path of its own.

    (suites.map nameOf).Sublist names
    name ∈ suites.map nameOf ↔ name writes a text with the suffix, and leads to a file
    (Engine.command s).addSuites {} suites = .ok (suites.length, r)         (discover_registers)

The spelling of the directory does not matter for the last: names that differ are components that
differ behind it.
-/

namespace TapSuite

open Text.Utf8

namespace Workspace

/-! ## Suites of names -/

/-- What is known of the names in a directory. -/
structure Listing (names : List Bytes) : Prop where
  distinct : names.Nodup
  legal : ∀ name ∈ names, Legal name

/-- The suite at a text below a directory. -/
theorem ofPath_join {text : List Char} (h : Path.Plain text) (dir : String) :
    SuiteFile.ofPath (.ofList (Path.join dir.toList text)) =
      ⟨.ofList (Path.join dir.toList text), .ofList text⟩ := by
  rw [SuiteFile.ofPath, String.toList_ofList, Path.fileName?_join h]
  rfl

def nameOf (suite : SuiteFile) : Bytes := encode suite.name.toList

theorem nameOf_mk (path : String) (text : List Char) :
    nameOf ⟨path, .ofList text⟩ = encode text := by
  rw [nameOf, String.toList_ofList]

theorem suite?_eq_some_iff {w : Workspace} {dir suffix : String} {name : Bytes} (h : Legal name)
    {suite : SuiteFile} :
    w.suite? dir suffix name = some suite ↔
      ∃ text, encode text = name ∧ suffix.toList <:+ text ∧
        w.isFile (.ofList (Path.join dir.toList text)) ∧
        suite = ⟨.ofList (Path.join dir.toList text), .ofList text⟩ := by
  unfold suite?
  cases htext : text? name with
  | none =>
    simp only [reduceCtorEq, false_iff, not_exists]
    rintro text ⟨henc, -⟩
    rw [text?_eq_some_iff.mpr henc] at htext
    cases htext
  | some text =>
    have henc := text?_eq_some_iff.mp htext
    have hinj : ∀ other, encode other = name → other = text := fun other hother =>
      Option.some.inj ((text?_eq_some_iff.mpr hother).symm.trans htext)
    have hpath := ofPath_join (henc ▸ h : Legal (encode text)).plain dir
    simp only [hpath]
    constructor
    · intro hsuite
      split at hsuite
      · next hsuffix =>
        split at hsuite
        · next hfile =>
          obtain rfl := Option.some.inj hsuite
          exact ⟨text, henc, List.isSuffixOf_iff_suffix.mp hsuffix, hfile, rfl⟩
        · cases hsuite
      · cases hsuite
    · rintro ⟨other, hother, hsuffix, hfile, rfl⟩
      obtain rfl := hinj other hother
      rw [if_pos (List.isSuffixOf_iff_suffix.mpr hsuffix), if_pos hfile]

/-! ## Suites of a directory -/

/-- What suites are to the names in a directory. -/
structure Discovered (w : Workspace) (dir suffix : String) (names : List Bytes)
    (suites : List SuiteFile) : Prop where
  /-- One suite at most for a name, in the order of the names. -/
  order : (suites.map nameOf).Sublist names
  /-- A suite for a name that writes a text with the suffix at its end and leads to a file. -/
  mem : ∀ name ∈ names, name ∈ suites.map nameOf ↔
    ∃ text, encode text = name ∧ suffix.toList <:+ text ∧
      w.isFile (.ofList (Path.join dir.toList text))
  path : ∀ suite ∈ suites, suite.path = .ofList (Path.join dir.toList suite.name.toList)

theorem map_filterMap_of_inverse {α β : Type} {f : α → Option β} {g : β → α} {l : List α}
    (h : ∀ a ∈ l, ∀ b, f a = some b → g b = a) :
    (l.filterMap f).map g = l.filter fun a => (f a).isSome := by
  rw [List.map_filterMap, ← List.filterMap_eq_filter]
  refine List.filterMap_congr fun a ha => ?_
  cases hf : f a with
  | none => simp [Option.guard, hf]
  | some b => simp [Option.guard, hf, h a ha b hf]

theorem discovered_filterMap (w : Workspace) (dir suffix : String) {names : List Bytes}
    (h : ∀ name ∈ names, Legal name) :
    w.Discovered dir suffix names (names.filterMap (w.suite? dir suffix)) := by
  have hnames : (names.filterMap (w.suite? dir suffix)).map nameOf =
      names.filter fun name => (w.suite? dir suffix name).isSome := by
    refine map_filterMap_of_inverse fun name hname suite hsuite => ?_
    obtain ⟨text, henc, -, -, rfl⟩ := (suite?_eq_some_iff (h name hname)).mp hsuite
    rw [nameOf_mk, henc]
  refine ⟨?_, ?_, ?_⟩
  · rw [hnames]
    exact List.filter_sublist
  · intro name hname
    rw [hnames, List.mem_filter, Option.isSome_iff_exists]
    simp only [suite?_eq_some_iff (h name hname)]
    constructor
    · rintro ⟨-, -, text, henc, hsuffix, hfile, -⟩
      exact ⟨text, henc, hsuffix, hfile⟩
    · rintro ⟨text, henc, hsuffix, hfile⟩
      exact ⟨hname, _, text, henc, hsuffix, hfile, rfl⟩
  · intro suite hsuite
    obtain ⟨name, hname, hsuite⟩ := List.mem_filterMap.mp hsuite
    obtain ⟨text, -, -, -, rfl⟩ := (suite?_eq_some_iff (h name hname)).mp hsuite
    rw [String.toList_ofList]

section

variable {w : Workspace} {dir suffix : String} {names : List Bytes} {suites : List SuiteFile}

theorem Discovered.plain (h : w.Discovered dir suffix names suites) (hnames : Listing names) :
    ∀ suite ∈ suites, Path.Plain suite.name.toList := fun _ hsuite =>
  (hnames.legal _ (h.order.subset (List.mem_map_of_mem hsuite))).plain

/-- Whatever the spelling of the directory, no two suites have the same path. -/
theorem Discovered.pairwise (h : w.Discovered dir suffix names suites) (hnames : Listing names) :
    (suites.map (·.path)).Pairwise fun p q => ¬ SamePath p q := by
  have hnodup : (suites.map nameOf).Nodup := h.order.nodup hnames.distinct
  refine List.pairwise_map.mpr ((List.pairwise_map.mp hnodup).imp_of_mem ?_)
  intro a b ha hb hne hsame
  rw [SamePath, h.path a ha, h.path b hb, String.toList_ofList, String.toList_ofList] at hsame
  have hname := Path.join_injective (h.plain hnames a ha) (h.plain hnames b hb) hsame
  exact hne (congrArg encode hname)

/-- A fresh registry takes all suites of a directory. -/
theorem Discovered.registerAll (h : w.Discovered dir suffix names suites)
    (hnames : Listing names) :
    ∃ r, ({} : Registry).registerAll (suites.map (·.path)) = .ok r :=
  ⟨_, Registry.registerAll_eq_callAll (fun _ _ => List.not_mem_nil) (h.pairwise hnames)⟩

end

/-! ## Discovery and registration -/

/-- The suites of a readable directory are those of its names that write a text with the suffix at
its end and lead to a file, each at the directory joined with its name, in the order of the names.
A fresh registry takes all of them, however the directory is spelled, and then holds just these.

A name leads to a file as the directory has it: through links, as many as the way to the directory
leaves, and by a path that is not too long. -/
theorem discover_registers (s : Engine.Setting) {w : Workspace} {dir : String} (suffix : String)
    {names : List Bytes} (hlist : w.list dir = .ok names) (hnames : Listing names) :
    ∃ suites r, w.discover dir suffix = .ok suites ∧
      w.Discovered dir suffix names suites ∧
      (Engine.command s).addSuites {} suites = .ok (suites.length, r) ∧ r.suites = suites ∧
      ∃ pos used, w.Locates dir used pos ∧ names = w.names pos ∧
        ∀ text, encode text ∈ names → (w.isFile (.ofList (Path.join dir.toList text)) ↔
          (encode (Path.join dir.toList text)).length < pathLimit ∧
            w.LeadsToFile (linkLimit - used) pos (encode text)) := by
  have hdiscover : w.discover dir suffix = .ok (names.filterMap (w.suite? dir suffix)) := by
    rw [discover, hlist]
  have hdiscovered := discovered_filterMap w dir suffix hnames.legal
  obtain ⟨r, hr⟩ := hdiscovered.registerAll hnames
  refine ⟨_, r, hdiscover, hdiscovered, ?_, Run.suites_of_registered hdiscover hr, ?_⟩
  · rw [Engine.addSuites, Engine.addAll_command, hr]
    rfl
  · obtain ⟨pos, used, hlocates, hpos⟩ := exists_locates_of_list hlist
    exact ⟨pos, used, hlocates, hpos, fun text htext =>
      isFile_join_iff hlocates (hnames.legal _ htext)⟩

/-- A directory with a file, a name that is no text, a directory with a file in it, a link to
nothing and a link to the file, spelled with a `.` before it and a slash behind it. -/
theorem discover_registers_cluttered :
    let s : Engine.Setting :=
      { command := "tap", jobs := 1, environment := [], launch := fun _ _ => .error .notFound
        locale := "en" }
    let here := [encode ['d']]
    let w : Workspace :=
      { entries :=
          [(here, .directory),
            (here ++ [encode ['b', '.', 'j', 's']], .file []),
            (here ++ [0xFF :: encode ['.', 'j', 's']], .file []),
            (here ++ [encode ['e', '.', 'j', 's']], .directory),
            (here ++ [encode ['e', '.', 'j', 's'], encode ['f', '.', 'j', 's']], .file []),
            (here ++ [encode ['g', '.', 'j', 's']], .link (encode ['h'])),
            (here ++ [encode ['a', '.', 'j', 's']], .link (encode ['b', '.', 'j', 's']))]
        here := [] }
    w.list "./d/" = .ok (w.names here) ∧ Listing (w.names here) ∧ (w.names here).length = 5 ∧
      ∃ suites r, w.discover "./d/" ".js" = .ok suites ∧
        w.Discovered "./d/" ".js" (w.names here) suites ∧
        (Engine.command s).addSuites {} suites = .ok (suites.length, r) ∧ r.suites = suites := by
  intro s here w
  have hlist : w.list "./d/" = .ok (w.names here) := by cbv
  have hnames : Listing (w.names here) := ⟨by decide, by decide⟩
  obtain ⟨suites, r, hsuites, hdiscovered, hadded, hr, -⟩ := discover_registers s ".js" hlist hnames
  exact ⟨hlist, hnames, by decide, suites, r, hsuites, hdiscovered, hadded, hr⟩

end Workspace

end TapSuite
