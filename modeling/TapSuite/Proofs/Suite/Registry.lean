import TapSuite.Proofs.Path.Spelling
import TapSuite.Suite.Registry

/-!
# The registry as an ordered set

A registry holds the paths of all calls, in the order of the calls and as they were given first,
without those that name the same as an earlier one.  Such a path is refused, and nothing changes.

    (({} : Registry).callAll paths).suites = (unrepeated [] paths).map SuiteFile.ofPath
    SamePath p q ↔ Relation.EqvGen Path.Respelled p.toList q.toList       (callAll_orderedSet)

The invariant of a run (`Registry.Holds`) ties the list of suites and the set of components, which
are kept side by side, to the calls so far.
-/

namespace TapSuite

/-! ## Paths that name the same -/

def SamePath (p q : String) : Prop := Path.components p.toList = Path.components q.toList

instance (p q : String) : Decidable (SamePath p q) := inferInstanceAs (Decidable (_ = _))

/-- Some paths without those that name the same as an earlier one, be it one of them or one of the
paths before. -/
def unrepeated (before : List String) : List String → List String
  | [] => []
  | path :: rest =>
    if ∃ earlier ∈ before, SamePath earlier path then unrepeated (path :: before) rest
    else path :: unrepeated (path :: before) rest

example : unrepeated [] ["a//b", "./a", "a/./b/", "a", "./a/", "a/../a", "a/."] =
    ["a//b", "./a", "a", "a/../a"] := by decide

/-! ## Calls -/

namespace Registry

/-- The components that stand for a suite. -/
def keyOf (suite : SuiteFile) : List Path.Component := Path.components suite.path.toList

theorem call_of_mem {r : Registry} {path : String}
    (h : Path.components path.toList ∈ r.seen) :
    r.call path = (.error (.duplicateSuite path), r) := by
  simp only [call, insertKey, if_pos h]
  rfl

theorem call_of_not_mem {r : Registry} {path : String}
    (h : Path.components path.toList ∉ r.seen) :
    r.call path =
      (.ok (), ⟨r.suites ++ [.ofPath path], Path.components path.toList :: r.seen⟩) := by
  simp only [call, insertKey, if_neg h]
  rfl

/-- Where a call fails, registering fails, and where it does not, both have the same registry. -/
theorem register_eq_call (r : Registry) (path : String) :
    r.register path = (r.call path).1.map fun _ => (r.call path).2 := by
  by_cases h : Path.components path.toList ∈ r.seen
  · rw [call_of_mem h]
    simp only [register, if_pos h]
    rfl
  · rw [call_of_not_mem h]
    simp only [register, if_neg h]
    rfl

/-! ## Runs -/

/-- What holds of a registry after some calls. -/
structure Holds (r : Registry) (calls : List String) : Prop where
  /-- The components are those of the calls. -/
  mem_seen : ∀ key, key ∈ r.seen ↔ ∃ path ∈ calls, Path.components path.toList = key
  /-- The components are those of the suites, too. -/
  perm : r.seen.Perm (r.suites.map keyOf)
  nodup : r.seen.Nodup

theorem Holds.start : ({} : Registry).Holds [] := ⟨by simp, .nil, .nil⟩

theorem Holds.mem_iff {r : Registry} {calls : List String} (h : r.Holds calls) (path : String) :
    Path.components path.toList ∈ r.seen ↔ ∃ earlier ∈ calls, SamePath earlier path :=
  h.mem_seen _

/-- A call keeps the invariant. -/
theorem Holds.call {r : Registry} {calls : List String} (h : r.Holds calls) (path : String) :
    (r.call path).2.Holds (path :: calls) := by
  by_cases hmem : Path.components path.toList ∈ r.seen
  · rw [call_of_mem hmem]
    refine ⟨fun key => ?_, h.perm, h.nodup⟩
    constructor
    · intro hkey
      obtain ⟨earlier, hearlier, heq⟩ := (h.mem_seen key).mp hkey
      exact ⟨earlier, List.mem_cons_of_mem _ hearlier, heq⟩
    · rintro ⟨earlier, hearlier, rfl⟩
      rcases List.mem_cons.mp hearlier with rfl | hearlier
      · exact hmem
      · exact (h.mem_seen _).mpr ⟨earlier, hearlier, rfl⟩
  · rw [call_of_not_mem hmem]
    refine ⟨fun key => ?_, ?_, List.nodup_cons.mpr ⟨hmem, h.nodup⟩⟩
    · rw [List.mem_cons, h.mem_seen]
      simp [eq_comm]
    · have hsuites : (r.suites ++ [SuiteFile.ofPath path]).map keyOf =
          r.suites.map keyOf ++ [Path.components path.toList] := by
        rw [List.map_append]
        rfl
      rw [hsuites]
      exact (h.perm.cons _).trans (List.perm_append_singleton _ _).symm

theorem Holds.callAll {r : Registry} {calls : List String} (h : r.Holds calls)
    (paths : List String) : (r.callAll paths).Holds (paths.reverse ++ calls) := by
  induction paths generalizing r calls with
  | nil => exact h
  | cons path paths ih =>
    have hnext : (r.callAll (path :: paths)) = (r.call path).2.callAll paths := rfl
    rw [hnext, List.reverse_cons, List.append_assoc]
    exact ih (h.call path)

/-- Behind the suites that it has, a registry gets those of the paths that are new. -/
theorem Holds.suites_callAll {r : Registry} {calls : List String} (h : r.Holds calls)
    (paths : List String) :
    (r.callAll paths).suites = r.suites ++ (unrepeated calls paths).map SuiteFile.ofPath := by
  induction paths generalizing r calls with
  | nil => exact (List.append_nil _).symm
  | cons path paths ih =>
    have hnext : (r.callAll (path :: paths)) = (r.call path).2.callAll paths := rfl
    rw [hnext, ih (h.call path), unrepeated]
    by_cases hmem : Path.components path.toList ∈ r.seen
    · rw [call_of_mem hmem, if_pos ((h.mem_iff path).mp hmem)]
    · rw [call_of_not_mem hmem, if_neg fun hearlier => hmem ((h.mem_iff path).mpr hearlier)]
      simp

theorem Holds.pairwise {r : Registry} {calls : List String} (h : r.Holds calls) :
    r.suites.Pairwise fun a b => ¬ SamePath a.path b.path :=
  List.pairwise_map.mp (h.perm.nodup_iff.mp h.nodup)

/-- Paths that name different things, none of which was registered before, are all registered. -/
theorem registerAll_eq_callAll {r : Registry} {paths : List String}
    (hnew : ∀ path ∈ paths, Path.components path.toList ∉ r.seen)
    (hdistinct : paths.Pairwise fun p q => ¬ SamePath p q) :
    r.registerAll paths = .ok (r.callAll paths) := by
  induction paths generalizing r with
  | nil => rfl
  | cons path paths ih =>
    have hcall := call_of_not_mem (hnew path List.mem_cons_self)
    have hnext : r.callAll (path :: paths) = (r.call path).2.callAll paths := rfl
    have hregister : r.register path = .ok (r.call path).2 := by
      rw [register_eq_call, hcall]
      rfl
    rw [registerAll, hregister, hnext]
    obtain ⟨hpath, hrest⟩ := List.pairwise_cons.mp hdistinct
    refine ih (fun other hother hmem => ?_) hrest
    rw [hcall] at hmem
    rcases List.mem_cons.mp hmem with heq | hmem
    · exact hpath other hother heq.symm
    · exact hnew other (List.mem_cons_of_mem _ hother) hmem

/-! ## The ordered set -/

/-- What a registry is after some calls. -/
structure OrderedSet (r : Registry) (paths : List String) : Prop where
  /-- The suites are the paths without those that name the same as an earlier one. -/
  suites_eq : r.suites = (unrepeated [] paths).map SuiteFile.ofPath
  pairwise : r.suites.Pairwise fun a b => ¬ SamePath a.path b.path
  /-- The components are those of the suites. -/
  seen_perm : r.seen.Perm (r.suites.map keyOf)
  /-- A path that names the same as an earlier one is refused, and nothing changes. -/
  refused : ∀ path, (∃ earlier ∈ paths, SamePath earlier path) →
    r.call path = (.error (.duplicateSuite path), r)
  accepted : ∀ path, (¬ ∃ earlier ∈ paths, SamePath earlier path) →
    r.call path = (.ok (), ⟨r.suites ++ [.ofPath path], Path.components path.toList :: r.seen⟩)

/-- After any calls a registry is the ordered set of their paths, and registering answers as a call
does.  Two texts name the same path if they differ only in repeated slashes, slashes at the end, and
in `.` behind a slash. -/
theorem callAll_orderedSet :
    (∀ paths, (({} : Registry).callAll paths).OrderedSet paths) ∧
    (∀ (r : Registry) (path : String),
      r.register path = (r.call path).1.map fun _ => (r.call path).2) ∧
    ∀ p q, SamePath p q ↔ Relation.EqvGen Path.Respelled p.toList q.toList := by
  refine ⟨fun paths => ?_, register_eq_call, fun p q => Path.components_eq_iff _ _⟩
  have hr : (({} : Registry).callAll paths).Holds (paths.reverse ++ []) :=
    Holds.start.callAll paths
  have hmem : ∀ path, Path.components path.toList ∈ (({} : Registry).callAll paths).seen ↔
      ∃ earlier ∈ paths, SamePath earlier path := by
    intro path
    rw [hr.mem_iff]
    simp
  refine ⟨Holds.start.suites_callAll paths, hr.pairwise, hr.perm, ?_, ?_⟩
  · intro path hearlier
    exact call_of_mem ((hmem path).mpr hearlier)
  · intro path hnone
    exact call_of_not_mem fun hseen => hnone ((hmem path).mp hseen)

end Registry

end TapSuite
