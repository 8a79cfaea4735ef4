import TapSuite.Suite.File
import TapSuite.SetupError

/-!
# Registered suites

A registry lists suite files in the order of their registration.  A path that is already there,
under whatever spelling, is refused.

    registry.register path = .error (.duplicateSuite path) ↔ Path.components path ∈ registry.seen
-/

namespace TapSuite

/-- The registered suite files, and the components of their paths. -/
structure Registry where
  suites : List SuiteFile := []
  seen : List (List Path.Component) := []
  deriving DecidableEq

/-- The registry with one more suite at its end. -/
def Registry.register (r : Registry) (path : String) : Except SetupError Registry :=
  let key := Path.components path.toList
  if key ∈ r.seen then .error (.duplicateSuite path)
  else .ok ⟨r.suites ++ [.ofPath path], key :: r.seen⟩

/-- The components of paths with those of one more, and whether these are new. -/
def insertKey (key : List Path.Component) (seen : List (List Path.Component)) :
    Bool × List (List Path.Component) :=
  if key ∈ seen then (false, seen) else (true, key :: seen)

/-- A call on a registry that is kept, whatever the answer: the path's components are inserted, and
the suite follows them if they are new. -/
def Registry.call (r : Registry) (path : String) : Except SetupError Unit × Registry :=
  let (isNew, seen) := insertKey (Path.components path.toList) r.seen
  let r := { r with seen }
  if isNew then (.ok (), { r with suites := r.suites ++ [.ofPath path] })
  else (.error (.duplicateSuite path), r)

/-- The registry after one call for each path. -/
def Registry.callAll (r : Registry) (paths : List String) : Registry :=
  paths.foldl (fun r path => (r.call path).2) r

/-- The registry with all paths registered in order, or the first error. -/
def Registry.registerAll (r : Registry) : List String → Except SetupError Registry
  | [] => .ok r
  | path :: rest =>
    match r.register path with
    | .error e => .error e
    | .ok r => r.registerAll rest

end TapSuite
