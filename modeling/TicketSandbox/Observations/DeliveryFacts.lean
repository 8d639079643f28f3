import TicketSandbox.Library.Phases
import TicketSandbox.Observations.Deliveries
import TicketSandbox.Observations.RequestFacts

namespace TicketSandbox.Observations

/-!
# What a step does to the runs and to the workers

A step either lets the rows go on, each one starting or finishing at most, or
it is a request that adds one row.  A row is finished with anything but
"unknown" only where it passed the check in that very step.
-/

open Phases (Later Rewritten View)
open Raises
open Sandbox (Pk Timestamp Uuid)

variable {run : HTTPObservationRun}
  {added : HTTPObservationRun → Finish → Prop} {runId : Uuid}

namespace HTTPObservationRun

/-- How a run was finished. -/
def finish? (run : HTTPObservationRun) : Option Finish :=
  if run.status = .finished then
    some { http := run.http, reason := run.reason, result := run.result }
  else none

/-- A run as a row that passes through phases. -/
def view : View HTTPObservationRun RequestedRun (Option Timestamp) Finish where
  identity := HTTPObservationRun.toRequestedRun
  started run := if run.status = .queued then none else some run.startedAt
  finish := HTTPObservationRun.finish?

/-- A run is started once it has left the queue. -/
theorem isStarted_iff :
    (view.started run).isSome = true ↔ run.status ≠ .queued := by
  by_cases isQueued : run.status = .queued
  · simp [view, isQueued]
  · simp [view, isQueued]

theorem finish?_eq_none :
    run.finish? = none ↔ run.isActive = true := by
  unfold finish? isActive
  cases run.status with
  | queued => simp
  | running => simp
  | finished => simp

theorem finish?_finished (isFinished : run.status = .finished) :
    run.finish? =
      some { http := run.http, reason := run.reason, result := run.result } :=
  if_pos isFinished

theorem finish?_eq_some {finish : Finish} :
    run.finish? = some finish ↔
      run.status = .finished ∧ run.http = finish.http ∧
        run.reason = finish.reason ∧ run.result = finish.result := by
  unfold finish?
  split
  · rename_i isFinished
    cases finish
    simp [isFinished]
  · rename_i unfinished
    simp [unfinished]

end HTTPObservationRun

/-- What is known of a finish that a step adds: nothing, or the check passed. -/
def System.MayFinish
    (sys : System) (run : HTTPObservationRun) (finish : Finish) : Prop :=
  finish.http = "unknown" ∨ ∃ attempt, current sys.world run = .ok attempt

theorem later_claimed (run : HTTPObservationRun) (now : Timestamp) :
    Later HTTPObservationRun.view added run (run.claimed now) := by
  unfold HTTPObservationRun.claimed
  split
  · rename_i isQueued
    refine ⟨rfl, fun start began => ?_, .inl ?_⟩
    · simp [HTTPObservationRun.view, isQueued] at began
    · simp [HTTPObservationRun.view, HTTPObservationRun.finish?, isQueued]
  · exact .refl run

theorem later_pinned (run : HTTPObservationRun) :
    Later HTTPObservationRun.view added run
      { run with runtime := some run.execution } :=
  ⟨rfl, fun _ => id, .inl rfl⟩

theorem later_finished
    {finish : Finish} (known : added run finish) (now : Timestamp) :
    Later HTTPObservationRun.view added run (run.finished finish now) := by
  unfold HTTPObservationRun.finished
  split
  · rename_i isActive
    refine ⟨rfl, fun start began => ?_, .inr ⟨?_, finish, ?_, known⟩⟩
    · simp only [HTTPObservationRun.view, Option.ite_none_left_eq_some] at began
      exact began.2
    · exact HTTPObservationRun.finish?_eq_none.mpr isActive
    · simp [HTTPObservationRun.view, HTTPObservationRun.finish?]
  · exact .refl run

theorem rewritten_finishRun {runs : List HTTPObservationRun} {finish : Finish}
    (known : ∀ run ∈ runs, run.runId = runId → added run finish)
    (now : Timestamp) :
    Rewritten HTTPObservationRun.view added runs
      (finishRun runs runId finish now) :=
  .modify fun run member same => later_finished (known run member same) now

namespace System

/-- The step is a request that created the run. -/
def Creates
    (sys : System) (action : Action) (run : HTTPObservationRun) : Prop :=
  ∃ attemptId userId drawn requested,
    action = .requested attemptId userId drawn ∧
      requestObservation sys.world sys.runs attemptId userId drawn =
        .ok requested ∧
      requested.created = true ∧ requested.run = run

/-- A step lets the rows go on, or adds the row of a request. -/
def RowsGoOn (sys : System) (action : Action) (next : System) : Prop :=
  Rewritten HTTPObservationRun.view sys.MayFinish sys.runs next.runs ∨
    ∃ run, sys.Creates action run ∧ insert sys.runs run = .ok next.runs

variable {sys next : System} {index : Nat} {action : Action} {now : Timestamp}
  {worker : Worker} {seen : World}

theorem act?_eq_some {step? : Worker → Option System} :
    sys.act? index step? = some next ↔
      ∃ worker, sys.workers[index]? = some worker ∧
        step? worker = some next := by
  simp [act?, Option.bind_eq_some_iff]

theorem RowsGoOn.same
    (same : next.runs = sys.runs) : sys.RowsGoOn action next := by
  unfold RowsGoOn
  rw [same]
  exact .inl (.refl sys.runs)

theorem rows_request (sys : System) (attemptId userId : Pk) (drawn : Uuid) :
    sys.RowsGoOn (.requested attemptId userId drawn)
      (sys.request attemptId userId drawn) := by
  unfold request
  split
  · exact .same rfl
  · rename_i requested returned
    split
    · rename_i isCreated
      refine .inr ⟨requested.run, ?_, ?_⟩
      · exact
          ⟨attemptId, userId, drawn, requested, rfl, returned, isCreated, rfl⟩
      · exact (requestObservation_created returned isCreated).1
    · exact .same rfl

theorem rows_failDispatch (stepped : sys.failDispatch? runId now = some next) :
    sys.RowsGoOn (.dispatchFailed runId now) next := by
  obtain ⟨_, _, rfl⟩ := Option.map_eq_some_iff.mp stepped
  exact .inl (rewritten_finishRun (fun _ _ _ => .inl rfl) now)

theorem rows_deliver (sys : System) (runId : Uuid) (now : Timestamp) :
    sys.RowsGoOn (.delivered runId now) (sys.deliver runId now) := by
  unfold deliver claim?
  split
  · exact .same rfl
  · rename_i runs claimed
    split at claimed
    · cases claimed
      exact .inl (.modify fun run _ _ => later_claimed run now)
    · cases claimed

theorem rows_check (stepped : sys.check? index worker seen = some next) :
    next.runs = sys.runs := by
  unfold check? at stepped
  split at stepped
  · cases stepped
    rfl
  · cases stepped

theorem rows_pin (stepped : sys.pin? index worker seen = some next) :
    sys.RowsGoOn (.pinned index seen) next := by
  unfold pin? at stepped
  split at stepped
  · split at stepped
    · cases stepped
      exact .inl (.modify fun run _ _ => later_pinned run)
    · cases stepped
      exact .same rfl
  · cases stepped

theorem rows_observe {size : Nat} {answer : Option Observation}
    (stepped : sys.observePilot? index worker answer size = some next) :
    next.runs = sys.runs := by
  unfold observePilot? at stepped
  split at stepped
  · cases stepped
    rfl
  · cases stepped

theorem rows_conclude (unique : (sys.runs.map fun run => run.runId).Nodup)
    (stepped : sys.conclude? index worker now = some next) :
    sys.RowsGoOn (.concluded index now) next := by
  unfold conclude? at stepped
  split at stepped
  · rename_i observation _
    split at stepped
    · rename_i runs concluded
      cases stepped
      simp only [concludeRun, bind_ok, required_ok,
        ensure_ok, pure_ok] at concluded
      obtain ⟨run, isRun, attempt, passed, _, _, rfl⟩ := concluded
      refine .inl (rewritten_finishRun ?_ now)
      intro other member same
      have isOwn : run.runId = worker.runId := by
        simpa using List.find?_some isRun
      have sameRow : other = run :=
        Rows.eq_of_key unique member (List.mem_of_find?_eq_some isRun)
          (same.trans isOwn.symm)
      exact .inr ⟨attempt, sameRow ▸ passed⟩
    · cases stepped
      exact .same rfl
  · cases stepped

theorem rows_giveUp (stepped : sys.giveUp? index worker now = some next) :
    sys.RowsGoOn (.gaveUp index now) next := by
  unfold giveUp? at stepped
  split at stepped
  · cases stepped
    exact .inl (rewritten_finishRun (fun _ _ _ => .inl rfl) now)
  · cases stepped

/-- The rows go on in every step of the system. -/
theorem rows_step (unique : (sys.runs.map fun run => run.runId).Nodup)
    (stepped : sys.step? action = some next) :
    sys.RowsGoOn action next := by
  cases action with
  | changed world =>
      cases stepped
      exact .same rfl
  | requested attemptId userId drawn =>
      cases stepped
      exact rows_request sys attemptId userId drawn
  | dispatched runId =>
      simp only [step?, dispatch?] at stepped
      split at stepped
      · cases stepped
        exact .same rfl
      · cases stepped
  | dispatchFailed runId now => exact rows_failDispatch stepped
  | delivered runId now =>
      cases stepped
      exact rows_deliver sys runId now
  | checked index seen =>
      obtain ⟨worker, _, stepped⟩ := act?_eq_some.mp stepped
      exact .same (rows_check stepped)
  | pinned index seen =>
      obtain ⟨worker, _, stepped⟩ := act?_eq_some.mp stepped
      exact rows_pin stepped
  | observed index answer size =>
      obtain ⟨worker, _, stepped⟩ := act?_eq_some.mp stepped
      exact .same (rows_observe stepped)
  | concluded index now =>
      obtain ⟨worker, _, stepped⟩ := act?_eq_some.mp stepped
      exact rows_conclude unique stepped
  | raised index =>
      obtain ⟨worker, _, stepped⟩ := act?_eq_some.mp stepped
      unfold raise? at stepped
      split at stepped
      · cases stepped
        exact .same rfl
      · cases stepped
  | gaveUp index now =>
      obtain ⟨worker, _, stepped⟩ := act?_eq_some.mp stepped
      exact rows_giveUp stepped
  | killed index =>
      obtain ⟨worker, _, stepped⟩ := act?_eq_some.mp stepped
      cases stepped
      exact .same rfl

end System

end TicketSandbox.Observations

namespace TicketSandbox.Observations

/-!
# What a step does to the workers

A worker joins only with a queued row that it claims, so that no two workers
have one run, and each worker calls the pilot once, on its way out of the
stages before the call.
-/

open Sandbox (Pk Timestamp Uuid)

/-- The worker has not called the pilot and still may. -/
def Stage.isBefore : Stage → Bool
  | .claimed | .checked | .pinned => true
  | .observed _ | .failing | .left => false

namespace System

/-- A worker moves on without calling the pilot, and not back before it. -/
def WorkerMoves (sys next : System) : Prop :=
  ∃ (index : Nat) (worker : Worker) (stage : Stage),
    sys.workers[index]? = some worker ∧
      next.workers = (sys.moved index worker stage).workers ∧
      (stage.isBefore = true → worker.stage.isBefore = true) ∧
      next.observeCalls = sys.observeCalls

/-- A worker calls the pilot. -/
def WorkerCalls (sys next : System) : Prop :=
  ∃ (index : Nat) (worker : Worker) (stage : Stage),
    sys.workers[index]? = some worker ∧
      next.workers = (sys.moved index worker stage).workers ∧
      worker.stage.isBefore = true ∧ stage.isBefore = false ∧
      next.observeCalls = sys.observeCalls ++ [worker.runId]

/-- A worker joins with a row that it found queued and left running. -/
def WorkerJoins (sys next : System) : Prop :=
  ∃ run ∈ sys.runs, run.status = .queued ∧ next.workers =
        sys.workers ++ [{ runId := run.runId, stage := .claimed }] ∧
      (∃ version ∈ next.runs,
        version.runId = run.runId ∧ version.status ≠ .queued) ∧
      next.observeCalls = sys.observeCalls

/-- What a step does to the workers. -/
def WorkersGoOn (sys next : System) : Prop :=
  (next.workers = sys.workers ∧ next.observeCalls = sys.observeCalls) ∨
    sys.WorkerMoves next ∨ sys.WorkerCalls next ∨ sys.WorkerJoins next

theorem workers_deliver (sys : System) (runId : Uuid) (now : Timestamp) :
    sys.WorkersGoOn (sys.deliver runId now) := by
  unfold deliver claim?
  split
  · exact .inl ⟨rfl, rfl⟩
  · rename_i runs claimed
    split at claimed
    · rename_i isQueued
      cases claimed
      obtain ⟨run, member, rfl, queued⟩ := isQueued
      refine .inr (.inr (.inr ⟨run, member, queued, rfl, ?_, rfl⟩))
      refine ⟨run.claimed now, ?_, ?_, ?_⟩
      · exact Rows.mem_modify.mpr ⟨run, member, .inl ⟨rfl, rfl⟩⟩
      · simp [HTTPObservationRun.claimed, queued]
      · simp [HTTPObservationRun.claimed, queued]
    · cases claimed

variable {sys next : System}

theorem workers_moved {index : Nat} {worker : Worker}
    (isWorker : sys.workers[index]? = some worker) (moves : ∃ stage : Stage,
        next.workers = (sys.moved index worker stage).workers ∧
          (stage.isBefore = true → worker.stage.isBefore = true) ∧
          next.observeCalls = sys.observeCalls) :
    sys.WorkersGoOn next := by
  obtain ⟨stage, same, notBack, sameCalls⟩ := moves
  exact .inr (.inl ⟨index, worker, stage, isWorker, same, notBack, sameCalls⟩)

/-- Every step leaves the workers, or one of them moves, calls or joins. -/
theorem workers_step
    {action : Action} (stepped : sys.step? action = some next) :
    sys.WorkersGoOn next := by
  cases action with
  | changed world =>
      cases stepped
      exact .inl ⟨rfl, rfl⟩
  | requested attemptId userId drawn =>
      cases stepped
      unfold request
      split
      · exact .inl ⟨rfl, rfl⟩
      · split
        · exact .inl ⟨rfl, rfl⟩
        · exact .inl ⟨rfl, rfl⟩
  | dispatched runId =>
      simp only [step?, dispatch?] at stepped
      split at stepped
      · cases stepped
        exact .inl ⟨rfl, rfl⟩
      · cases stepped
  | dispatchFailed runId now =>
      obtain ⟨between, dispatched, rfl⟩ := Option.map_eq_some_iff.mp stepped
      simp only [dispatch?] at dispatched
      split at dispatched
      · cases dispatched
        exact .inl ⟨rfl, rfl⟩
      · cases dispatched
  | delivered runId now =>
      cases stepped
      exact workers_deliver sys runId now
  | checked index seen =>
      obtain ⟨worker, isWorker, stepped⟩ := act?_eq_some.mp stepped
      refine workers_moved isWorker ?_
      unfold check? at stepped
      split at stepped
      · rename_i isClaimed
        cases stepped
        exact ⟨_, rfl, fun _ => by rw [isClaimed]; rfl, rfl⟩
      · cases stepped
  | pinned index seen =>
      obtain ⟨worker, isWorker, stepped⟩ := act?_eq_some.mp stepped
      refine workers_moved isWorker ?_
      unfold pin? at stepped
      split at stepped
      · rename_i isChecked
        split at stepped
        · cases stepped
          exact ⟨.pinned, rfl, fun _ => by rw [isChecked]; rfl, rfl⟩
        · cases stepped
          exact ⟨.failing, rfl, (fun before => by cases before), rfl⟩
      · cases stepped
  | observed index answer size =>
      obtain ⟨worker, isWorker, stepped⟩ := act?_eq_some.mp stepped
      unfold observePilot? at stepped
      split at stepped
      · rename_i isPinned
        cases stepped
        have isOver : (answered size answer).isBefore = false := by
          unfold answered
          split
          · split
            · rfl
            · rfl
          · rfl
        exact .inr (.inr (.inl
          ⟨index, worker, _, isWorker, rfl, by rw [isPinned]; rfl, isOver,
            rfl⟩))
      · cases stepped
  | concluded index now =>
      obtain ⟨worker, isWorker, stepped⟩ := act?_eq_some.mp stepped
      refine workers_moved isWorker ?_
      unfold conclude? at stepped
      split at stepped
      · split at stepped
        · cases stepped
          exact ⟨.left, rfl, (fun before => by cases before), rfl⟩
        · cases stepped
          exact ⟨.failing, rfl, (fun before => by cases before), rfl⟩
      · cases stepped
  | raised index =>
      obtain ⟨worker, isWorker, stepped⟩ := act?_eq_some.mp stepped
      refine workers_moved isWorker ?_
      unfold raise? at stepped
      split at stepped
      · cases stepped
        exact ⟨.failing, rfl, (fun before => by cases before), rfl⟩
      · cases stepped
  | gaveUp index now =>
      obtain ⟨worker, isWorker, stepped⟩ := act?_eq_some.mp stepped
      refine workers_moved isWorker ?_
      unfold giveUp? at stepped
      split at stepped
      · cases stepped
        exact ⟨.left, rfl, (fun before => by cases before), rfl⟩
      · cases stepped
  | killed index =>
      obtain ⟨worker, isWorker, stepped⟩ := act?_eq_some.mp stepped
      refine workers_moved isWorker ?_
      cases stepped
      exact ⟨.left, rfl, (fun before => by cases before), rfl⟩

end System

end TicketSandbox.Observations
