import TapSuite.Fault
import TapSuite.Process.Capture
import TapSuite.Time.Span

/-!
# Launching programs

A launcher starts a program with its arguments and waits for its end, or says why the program
cannot be started.
-/

namespace TapSuite.Process

/-- What a program did: the bytes on its two streams, the steps in which they were read, and how it
ended. -/
structure Completed where
  out : Bytes := []
  err : Bytes := []
  schedule : List Stream := []
  /-- The exit code; a killed program has none. -/
  code : Option Int := some 0
  duration : Span := {}
  deriving DecidableEq

def Completed.success (c : Completed) : Bool := c.code = some 0

def Completed.output (c : Completed) : String := String.ofList (captured c.schedule c.out c.err)

/-- Starts a program with arguments. -/
abbrev Launcher := String → List String → Except Fault Completed

end TapSuite.Process
