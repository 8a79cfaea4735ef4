import TapSuite.Suite.Registry
import TapSuite.Suite.Summary

/-!
# Engines

An engine takes suite files one by one and then runs all of them once.  A failing test is part of
the summary and never an error.
-/

namespace TapSuite

/-- What the run of an engine prints, which suites it starts, and how it ends. -/
structure EngineRun where
  lines : List String := []
  started : List SuiteFile := []
  result : Except SetupError Summary

/-- Something that executes suites; `σ` is what it remembers of the suites that were added. -/
structure Engine (σ : Type) where
  addFile : σ → String → Except SetupError σ
  run : σ → EngineRun

/-- The engine with all paths added in order, or the first error. -/
def Engine.addAll {σ : Type} (e : Engine σ) (s : σ) : List String → Except SetupError σ
  | [] => .ok s
  | path :: rest =>
    match e.addFile s path with
    | .error error => .error error
    | .ok s => e.addAll s rest

/-- The engine with some suites added in order, and their number. -/
def Engine.addSuites {σ : Type} (e : Engine σ) (s : σ) (suites : List SuiteFile) :
    Except SetupError (Nat × σ) :=
  (e.addAll s (suites.map (·.path))).map (suites.length, ·)

end TapSuite
