import Mathlib.Data.List.Perm.Basic
import TapSuite.Engine.Schedule

/-!
# Every job starts and finishes once

Whatever the choices and however many jobs run at the same time, each waiting job starts exactly
once, and each job finishes exactly once.

    (events limit choices running waiting).Perm
      (running.map .finished ++ waiting.flatMap fun job => [.started job, .finished job])
                                                                                   (events_perm)
-/

namespace TapSuite.Engine

variable {α : Type}

/-- A choice takes one of the running jobs and leaves the others. -/
theorem pick_cons_unpicked_perm (choice : Nat) (job : α) (running : List α) :
    (pick choice job running :: unpicked choice job running).Perm (job :: running) := by
  have hlt : choice % (running.length + 1) < (job :: running).length := by
    rw [List.length_cons]
    exact Nat.mod_lt _ (Nat.succ_pos _)
  rw [pick, unpicked, List.getD_eq_getElem?_getD, List.getElem?_eq_getElem hlt, Option.getD_some]
  exact List.getElem_cons_eraseIdx_perm hlt

theorem finishAll_perm (choices : List Nat) (running : List α) :
    (finishAll choices running).Perm (running.map .finished) := by
  induction choices, running using finishAll.induct with
  | case1 choices =>
    rw [finishAll]
    exact .nil
  | case2 choices job rest ih =>
    rw [finishAll]
    exact (ih.cons _).trans ((pick_cons_unpicked_perm _ job rest).map Event.finished)

/-- What happens is that the running jobs finish, and that each of the waiting ones starts and
finishes. -/
theorem events_perm (limit : Nat) (choices : List Nat) (running waiting : List α) :
    (events limit choices running waiting).Perm
      (running.map .finished ++ waiting.flatMap fun job => [.started job, .finished job]) := by
  induction waiting generalizing choices running with
  | nil =>
    rw [events, List.flatMap_nil, List.append_nil]
    exact finishAll_perm choices running
  | cons next waiting ih =>
    -- the next job joins those that are running
    have hnext (choices : List Nat) (running : List α) :
        (.started next :: events limit choices (running ++ [next]) waiting).Perm
          (running.map .finished ++
            (next :: waiting).flatMap fun job => [.started job, .finished job]) := by
      refine ((ih choices (running ++ [next])).cons _).trans ?_
      rw [List.map_append, List.append_assoc]
      exact List.perm_middle.symm
    unfold events
    split
    · exact hnext choices []
    next job rest =>
    split
    · exact hnext choices (job :: rest)
    -- the limit is reached, so one of the running jobs finishes before the next one starts
    · refine ((hnext choices.tail (unpicked (choices.headD 0) job rest)).cons _).trans ?_
      exact ((pick_cons_unpicked_perm _ job rest).map Event.finished).append_right _

/-- The finished jobs are the running and the waiting ones, each of them once. -/
theorem finished_events_perm (limit : Nat) (choices : List Nat) (running waiting : List α) :
    (finished (events limit choices running waiting)).Perm (running ++ waiting) := by
  refine ((events_perm limit choices running waiting).filterMap _).trans (.of_eq ?_)
  simp [List.filterMap_flatMap]

end TapSuite.Engine
