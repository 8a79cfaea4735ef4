import TapSuite.Process.Launch

/-!
# Output of sandboxed programs

A sandboxed program is a function: its answer is what it writes, in order, and its exit code.
-/

namespace TapSuite.Sandbox

open Process

/-- What a program writes to its streams, in order. -/
abbrev Writes := List (Stream × Bytes)

/-- What a program writes and the code that it exits with; a killed one has none. -/
structure Effect where
  writes : Writes := []
  code : Option Int := some 0
  deriving DecidableEq

def say (stream : Stream) (t : List Char) : Writes := [(stream, Text.Utf8.encode t)]

def streamOf (writes : Writes) (stream : Stream) : Bytes :=
  writes.flatMap fun (s, bytes) => if s = stream then bytes else []

/-- The steps of readers that keep up with the writes: five for each line that is ended. -/
def scheduleOf (writes : Writes) : List Stream :=
  writes.flatMap fun (s, bytes) => List.replicate (5 * bytes.count lineFeed) s

def Effect.completed (e : Effect) : Completed where
  out := streamOf e.writes .out
  err := streamOf e.writes .err
  schedule := scheduleOf e.writes
  code := e.code

end TapSuite.Sandbox
