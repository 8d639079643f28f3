import TicketSandbox.Library.Runs
import TicketSandbox.Observations.HttpObservations

namespace TicketSandbox.Observations

/-!
# Requests, deliveries and their interleavings

A request commits in the process of the web server and then dispatches its
run.  Every delivery of a run id is a call of `run_observation` in a worker;
the worker that claimed the row goes on in transactions of its own.  Between
any two transactions of anyone the other tables may change.

The request and the last transaction of a worker hold the lock of the attempt,
which every writer of what they read takes first; they read the other tables
as they are.  The fences before the pilot runs read them without that lock,
statement by statement, so that what they see may mix several moments.
-/

open Sandbox (Pk Timestamp Uuid)

/-- Where a worker that claimed its run stands. -/
inductive Stage where
  | claimed
  | checked
  | pinned
  | observed (observation : Observation)
  | failing
  | left
  deriving Repr, DecidableEq

/-- A call of `run_observation` that claimed its run. -/
structure Worker where
  runId : Uuid
  stage : Stage

/-- The state: other tables, runs, dispatches to come, workers, pilot calls. -/
structure System where
  world : World
  runs : List HTTPObservationRun := []
  dispatches : List Uuid := []
  workers : List Worker := []
  observeCalls : List Uuid := []

/-- One step of someone. -/
inductive Action where
  | changed (world : World)
  | requested (attemptId userId : Pk) (drawn : Uuid)
  | dispatched (runId : Uuid)
  | dispatchFailed (runId : Uuid) (now : Timestamp)
  | delivered (runId : Uuid) (now : Timestamp)
  | checked (worker : Nat) (seen : World)
  | pinned (worker : Nat) (seen : World)
  | observed (worker : Nat) (answer : Option Observation) (size : Nat)
  | concluded (worker : Nat) (now : Timestamp)
  | raised (worker : Nat)
  | gaveUp (worker : Nat) (now : Timestamp)
  | killed (worker : Nat)

namespace System

variable (sys : System) (index : Nat) (worker : Worker)

/-- Move a worker on. -/
def moved (stage : Stage) : System :=
  { sys with workers := sys.workers.set index { worker with stage := stage } }

/-- `request_observation`; a new run is dispatched once it is committed. -/
def request (attemptId userId : Pk) (drawn : Uuid) : System :=
  match requestObservation sys.world sys.runs attemptId userId drawn with
  | .error _ => sys
  | .ok requested =>
      if requested.created = true then
        { sys with
          runs := requested.runs
          dispatches := sys.dispatches ++ [requested.run.runId] }
      else sys

/-- `_dispatch`, when the broker took the message. -/
def dispatch? (runId : Uuid) : Option System :=
  if runId ∈ sys.dispatches then
    some { sys with dispatches := sys.dispatches.erase runId }
  else none

/-- `_dispatch`, when the call of the broker raised. -/
def failDispatch? (runId : Uuid) (now : Timestamp) : Option System :=
  (sys.dispatch? runId).map fun next =>
    { next with
      runs := finishRun sys.runs runId (.unknown "dispatch_unavailable") now }

/-- A delivery, which does nothing when the row is not queued. -/
def deliver (runId : Uuid) (now : Timestamp) : System :=
  match claim? sys.runs runId now with
  | none => sys
  | some runs =>
      { sys with
        runs := runs
        workers := sys.workers ++ [{ runId := runId, stage := .claimed }] }

/-- The run of the worker passes the check against what was seen. -/
def passes (seen : World) : Bool :=
  ((run? sys.runs worker.runId).any fun run => (current seen run).isOk)

/-- The first fence, with the configuration read again. -/
def check? (seen : World) : Option System :=
  if worker.stage = .claimed then
    some (sys.moved index worker
        (if sys.passes worker seen && (loadConfig seen).isOk then .checked
          else .failing))
  else none

/-- The second fence, which pins the runtime in the row. -/
def pin? (seen : World) : Option System :=
  if worker.stage = .checked then
    if sys.passes worker seen = true then
      some
        { sys.moved index worker .pinned with
          runs := pin sys.runs worker.runId }
    else some (sys.moved index worker .failing)
  else none

/-- Where the pilot leaves a worker: what it returned is bounded in size. -/
def answered (size : Nat) : Option Observation → Stage
  | some observation =>
      if size ≤ 8192 then .observed observation else .failing
  | none => .failing

/-- `DockerPilot.observe`, which may raise. -/
def observePilot? (answer : Option Observation) (size : Nat) : Option System :=
  if worker.stage = .pinned then
    some
      { sys.moved index worker (answered size answer) with
        observeCalls := sys.observeCalls ++ [worker.runId] }
  else none

/-- The last transaction; when it raises, nothing of it remains. -/
def conclude? (now : Timestamp) : Option System :=
  match worker.stage with
  | .observed observation =>
      match concludeRun sys.world sys.runs worker.runId observation now with
      | .ok runs => some { sys.moved index worker .left with runs := runs }
      | .error _ => some (sys.moved index worker .failing)
  | _ => none

/-- Something raised in the worker before its last transaction committed. -/
def raise? : Option System :=
  if worker.stage ≠ .left then some (sys.moved index worker .failing)
  else none

/-- The handler of every exception. -/
def giveUp? (now : Timestamp) : Option System :=
  if worker.stage = .failing then
    some
      { sys.moved index worker .left with
        runs := finishRun sys.runs worker.runId
            (.unknown "observation_unavailable_or_stale") now }
  else none

/-- Let a step of an existing worker happen. -/
def act? (step? : Worker → Option System) : Option System := do
  let worker ← sys.workers[index]?
  step? worker

/-- The step function. -/
def step? : Action → Option System
  | .changed world => some { sys with world := world }
  | .requested attemptId userId drawn =>
      some (sys.request attemptId userId drawn)
  | .dispatched runId => sys.dispatch? runId
  | .dispatchFailed runId now => sys.failDispatch? runId now
  | .delivered runId now => some (sys.deliver runId now)
  | .checked index seen =>
      sys.act? index fun worker => sys.check? index worker seen
  | .pinned index seen =>
      sys.act? index fun worker => sys.pin? index worker seen
  | .observed index answer size =>
      sys.act? index fun worker => sys.observePilot? index worker answer size
  | .concluded index now =>
      sys.act? index fun worker => sys.conclude? index worker now
  | .raised index => sys.act? index fun worker => sys.raise? index worker
  | .gaveUp index now =>
      sys.act? index fun worker => sys.giveUp? index worker now
  | .killed index =>
      sys.act? index fun worker => some (sys.moved index worker .left)

/-- Runs of the system from the first state to the last one. -/
abbrev Runs (first : System) (actions : List Action) (last : System) : Prop :=
  Runs.Run step? Runs.anything first actions last

/-- No run was requested yet. -/
def start (world : World) : System :=
  { world := world }

end System

end TicketSandbox.Observations
