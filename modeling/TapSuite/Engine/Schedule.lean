/-!
# Running jobs at the same time

Jobs wait in a queue.  As long as fewer than `limit` jobs are running, the next one is started;
else one of the running jobs finishes, and which one is up to the `choices`.

    events 1 [] [] [a, b] = [started a, finished a, started b, finished b]
-/

namespace TapSuite.Engine

/-- Something that happens to a job. -/
inductive Event (α : Type) where
  | started (job : α)
  | finished (job : α)
  deriving DecidableEq

/-- The running job that a choice picks. -/
def pick {α : Type} (choice : Nat) (job : α) (running : List α) : α :=
  (job :: running).getD (choice % (running.length + 1)) job

/-- The jobs that stay when the picked one finishes. -/
def unpicked {α : Type} (choice : Nat) (job : α) (running : List α) : List α :=
  (job :: running).eraseIdx (choice % (running.length + 1))

theorem length_unpicked {α : Type} (choice : Nat) (job : α) (running : List α) :
    (unpicked choice job running).length = running.length := by
  have h : choice % (running.length + 1) < (job :: running).length := by
    simpa using Nat.mod_lt _ (Nat.succ_pos _)
  simp [unpicked, List.length_eraseIdx_of_lt h]

/-- The running jobs finished in the order of the choices; without a choice the first finishes. -/
def finishAll {α : Type} (choices : List Nat) (running : List α) : List (Event α) :=
  match running with
  | [] => []
  | job :: rest =>
    .finished (pick (choices.headD 0) job rest) ::
      finishAll choices.tail (unpicked (choices.headD 0) job rest)
  termination_by running.length
  decreasing_by simp [length_unpicked]

/-- What happens until all jobs have finished. -/
def events {α : Type} (limit : Nat) (choices : List Nat) (running : List α) :
    List α → List (Event α)
  | [] => finishAll choices running
  | next :: waiting =>
    match running with
    | [] => .started next :: events limit choices [next] waiting
    | job :: rest =>
      if running.length < limit then
        .started next :: events limit choices (running ++ [next]) waiting
      else
        .finished (pick (choices.headD 0) job rest) :: .started next ::
          events limit choices.tail (unpicked (choices.headD 0) job rest ++ [next]) waiting

/-- The jobs in the order in which they finish. -/
def finished {α : Type} (es : List (Event α)) : List α :=
  es.filterMap fun
    | .finished job => some job
    | .started _ => none

end TapSuite.Engine
