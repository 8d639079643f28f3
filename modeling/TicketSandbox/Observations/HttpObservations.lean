import TicketSandbox.Library.Raises
import TicketSandbox.Sandbox.LedgerModels

namespace TicketSandbox.Observations

/-!
# The data of the HTTP observations

The rows of `observation_models.py`, and of the other tables the columns that
`services/http_observations.py` reads.
-/

open Sandbox
  (CheckStatus EnvironmentKind EnvironmentStatus Outcome Pk Status Timestamp
    Uuid)

/-- A value in the runtime mapping of an attempt. -/
inductive Value where
  | text (value : String)
  | uuid (value : Uuid)
  | number (value : Int)
  deriving Repr, DecidableEq

/-- A runtime mapping, its fields in the order that the column keeps. -/
abbrev Mapping := List (String × Value)

/-- `dict.get` of a runtime mapping. -/
def Mapping.get? (mapping : Mapping) (name : String) : Option Value :=
  (mapping.find? fun field => decide (field.1 = name)).map Prod.snd

/-- The columns of an attempt that an observation depends on. -/
structure TaskAttempt where
  pk : Pk
  userId : Pk
  taskId : Pk
  attemptNumber : Nat
  queueSlug : String
  taskSlug : String
  isCurrent : Bool
  isAvailable : Bool
  status : Status
  technicalPassed : Bool
  checkStatus : CheckStatus
  environmentStatus : EnvironmentStatus
  environmentStartedAt : Option Timestamp
  environmentFinishedAt : Option Timestamp
  restartCount : Nat
  containerId : String
  httpObservationRuntime : Option Mapping

/-- `SandboxEnvironmentEvent.phase`. -/
inductive EnvironmentPhase where
  | requested
  | started
  | finished
  | duplicate
  deriving Repr, DecidableEq

/-- A row of `SandboxEnvironmentEvent`; `none` is the broker's `cleanup`. -/
structure SandboxEnvironmentEvent where
  pk : Pk
  operationId : Uuid
  attemptId : Pk
  userId : Pk
  taskId : Pk
  attemptNumber : Nat
  kind : Option EnvironmentKind
  phase : EnvironmentPhase
  outcome : Outcome

/-- A row of `TechnicalCheckExecution`. -/
structure TechnicalCheckExecution where
  pk : Pk
  runId : Uuid
  attemptId : Pk
  userId : Pk
  taskId : Pk
  attemptNumber : Nat
  ordinal : Nat

/-- A row of `TechnicalCheckExecutionEvent`. -/
structure TechnicalCheckExecutionEvent where
  pk : Pk
  executionId : Pk

/-- The settings of the pilot; an attempt id that is no number is absent. -/
structure Settings where
  observationEnabled : Bool
  observationAttemptId : Option Int

/-- The document that `load_config` reads. -/
structure Config where
  daemonId : String
  networkId : String
  scope : String
  subnet : String
  targetImage : String
  verifierImage : String
  apiSocket : String
  artifactDir : String
  deriving Repr, DecidableEq

/-- What the modelled functions raise. -/
inductive Refusal where
  | doesNotExist
  | permissionDenied
  | validationError (code : String)
  | valueError (code : String)
  | configurationError (code : String)
  | integrityError (constraint : String)

/--
Everything outside the table of the observation runs that they depend on.
`configFile` is what reading and checking the configuration file gives, or
what it raises.
-/
structure World where
  settings : Settings
  configFile : Except String Config
  attempts : List TaskAttempt
  environmentEvents : List SandboxEnvironmentEvent
  technicalChecks : List TechnicalCheckExecution
  technicalEvents : List TechnicalCheckExecutionEvent

namespace World

variable (world : World)

/-- `TaskAttempt.objects.get(pk=…)`. -/
def attempt? (attemptId : Pk) : Option TaskAttempt :=
  world.attempts.find? fun attempt => decide (attempt.pk = attemptId)

/-- The newest requested environment operation of the attempt. -/
def newestRequest? (attemptId : Pk) : Option SandboxEnvironmentEvent :=
  Rows.newest? SandboxEnvironmentEvent.pk
    (world.environmentEvents.filter fun event =>
      decide (event.attemptId = attemptId ∧ event.phase = .requested))

/-- The environment operation finished with success. -/
def isCompleted (operationId : Uuid) : Bool :=
  world.environmentEvents.any fun event =>
    decide (event.operationId = operationId ∧ event.phase = .finished ∧
        event.outcome = .success)

/-- The newest technical execution of the attempt. -/
def newestCheck? (attemptId : Pk) : Option TechnicalCheckExecution :=
  Rows.newest? TechnicalCheckExecution.ordinal
    (world.technicalChecks.filter fun check =>
      decide (check.attemptId = attemptId))

/-- The newest event of the newest technical execution of the attempt. -/
def lastEvent? (attemptId : Pk) : Option Pk := do
  let check ← world.newestCheck? attemptId
  let event ← Rows.newest? TechnicalCheckExecutionEvent.pk
    (world.technicalEvents.filter fun event =>
      decide (event.executionId = check.pk))
  return event.pk

end World

/-- `HTTPObservationRun.identity`. -/
structure Identity where
  userId : Pk
  taskId : Pk
  attemptNumber : Nat
  containerId : String
  environmentUuid : Uuid
  environmentStartedAt : Option Timestamp
  environmentFinishedAt : Option Timestamp
  restartCount : Nat
  runtime : Mapping
  deriving Repr, DecidableEq

/-- `docker_pilot.adapter.Execution`, its runtime fields as one mapping. -/
structure Execution where
  attemptId : Pk
  userId : Pk
  runId : Uuid
  ordinal : Nat
  runtime : Mapping
  deriving Repr, DecidableEq

/-- `docker_pilot.adapter.Observation`. -/
structure Observation where
  http : String
  reason : String
  binding : Option Execution
  executionUuid : Uuid
  verifierImage : String
  workerId : Option String
  deriving Repr, DecidableEq

/-- `HTTPObservationRun.execution_origin`. -/
inductive ExecutionOrigin where
  | observation
  | technicalExecution

/-- `HTTPObservationRun.status`. -/
inductive RunStatus where
  | queued
  | running
  | finished
  deriving Repr, DecidableEq

/-- The columns of a run that are written once, by its request. -/
structure RequestedRun where
  attemptId : Pk
  requestedById : Pk
  runId : Uuid
  ordinal : Nat
  technicalExecutionId : Option Pk
  technicalEventId : Option Pk
  executionOrigin : ExecutionOrigin
  environmentUuid : Uuid
  identity : Identity
  policy : Config

/-- A row of `HTTPObservationRun`; an empty `result` is absent. -/
structure HTTPObservationRun extends RequestedRun where
  runtime : Option Execution := none
  status : RunStatus := .queued
  http : String := "unknown"
  reason : String := "queued"
  result : Option Observation := none
  startedAt : Option Timestamp := none
  finishedAt : Option Timestamp := none

namespace HTTPObservationRun

/-- `status__in=["queued", "running"]`. -/
def isActive (run : HTTPObservationRun) : Bool :=
  decide (run.status ∈ [.queued, .running])

/-- The columns of `http_observation_ordinal_unique`. -/
def place (run : HTTPObservationRun) : Pk × Nat :=
  (run.attemptId, run.ordinal)

end HTTPObservationRun

end TicketSandbox.Observations

namespace TicketSandbox.Observations

/-!
# The services of the HTTP observations

`services/http_observations.py`: what a request reads and records, the check
that a run is still current, and the updates of its row.
-/

open Raises (ensure required)
open Sandbox (Pk Timestamp Uuid)

/-- `observation_config.TASK`. -/
def observedTask : String × String :=
  ("l1", "service-bind-localhost")

/-- The attempt that the settings allow, zero when they name none. -/
def Settings.allowed (settings : Settings) : Int :=
  settings.observationAttemptId.getD 0

/-- `observation_config.enabled_for`. -/
def enabledFor (settings : Settings) (attempt : TaskAttempt) : Bool :=
  settings.observationEnabled &&
    decide ((attempt.queueSlug, attempt.taskSlug) = observedTask) &&
    decide (settings.allowed ≤ 0 ∨ (attempt.pk : Int) = settings.allowed)

/-- `observation_config.load_config`. -/
def loadConfig (world : World) : Except Refusal Config := do
  ensure (world.settings.observationEnabled = true)
    (.valueError "observation_disabled_or_unconfigured")
  let allowed ← required (.valueError "invalid literal for int()")
      world.settings.observationAttemptId
  ensure (0 < allowed) (.valueError "observation_disabled_or_unconfigured")
  world.configFile.mapError .configurationError

/-- `docker_pilot.worker.full_id`. -/
def fullId (value : String) : Bool :=
  decide (value.length = 64) && value.toList.all fun char =>
      char.isDigit || decide ('a' ≤ char ∧ char ≤ 'f')

/-- The mapping was pinned for this environment and this container. -/
def isPinned
    (operationId : Uuid) (containerId : String) (mapping : Mapping) : Bool :=
  decide (mapping.get? "environment_uuid" = some (.uuid operationId) ∧
      mapping.get? "container_id" = some (.text containerId))

/-- What `_context` returns: identity, technical execution and its event. -/
structure Context where
  identity : Identity
  technicalCheck : Option TechnicalCheckExecution
  eventId : Option Pk

/-- `_context`. -/
def context (world : World) (attempt : TaskAttempt)
    (userId : Pk) : Except Refusal Context := do
  ensure (attempt.userId = userId) .permissionDenied
  ensure (enabledFor world.settings attempt = true ∧ attempt.isCurrent = true ∧
      attempt.isAvailable = true)
    (.validationError "stale_or_unavailable_attempt")
  ensure (attempt.environmentStatus = .ready ∧
      attempt.status ∈ [.inProgress, .failed] ∧
      attempt.technicalPassed = false ∧ attempt.checkStatus ≠ .running)
    (.validationError "attempt_not_ready_for_observation")
  ensure (fullId attempt.containerId = true)
    (.validationError "container_identity_missing")
  let event ← required (.validationError "environment_generation_missing")
      (world.newestRequest? attempt.pk)
  ensure (event.kind.isSome = true ∧
      (event.userId, event.taskId, event.attemptNumber) =
        (userId, attempt.taskId, attempt.attemptNumber))
    (.validationError "environment_generation_missing")
  ensure (world.isCompleted event.operationId = true)
    (.validationError "environment_not_completed")
  let mapping ←
    required (.validationError "runtime_not_pinned_at_environment_creation")
      (attempt.httpObservationRuntime.filter
        (isPinned event.operationId attempt.containerId))
  ensure (∀ check ∈ world.newestCheck? attempt.pk,
      (check.userId, check.taskId, check.attemptNumber) =
        (userId, attempt.taskId, attempt.attemptNumber))
    (.validationError "technical_identity_mismatch")
  pure
    { identity :=
        { userId := userId
          taskId := attempt.taskId
          attemptNumber := attempt.attemptNumber
          containerId := attempt.containerId
          environmentUuid := event.operationId
          environmentStartedAt := attempt.environmentStartedAt
          environmentFinishedAt := attempt.environmentFinishedAt
          restartCount := attempt.restartCount
          runtime := mapping }
      technicalCheck := world.newestCheck? attempt.pk
      eventId := world.lastEvent? attempt.pk }

variable (runs : List HTTPObservationRun) (run : HTTPObservationRun)

/-- The unique constraints on an insertion into the table. -/
def insert : Except Refusal (List HTTPObservationRun) := do
  ensure (∀ other ∈ runs, other.runId ≠ run.runId) (.integrityError "run_id")
  ensure (∀ other ∈ runs, other.place ≠ run.place)
    (.integrityError "http_observation_ordinal_unique")
  ensure (∀ other ∈ runs, other.isActive = true → run.isActive = true →
      other.attemptId ≠ run.attemptId)
    (.integrityError "http_observation_one_active")
  pure (runs ++ [run])

/-- The first unfinished run of the attempt. -/
def activeRun? (attemptId : Pk) : Option HTTPObservationRun :=
  runs.find? fun run => decide (run.attemptId = attemptId) && run.isActive

/-- The ordinal after all the ordinals of the attempt. -/
def nextOrdinal (attemptId : Pk) : Nat :=
  Rows.largest (fun run => run.ordinal)
    (runs.filter fun run => decide (run.attemptId = attemptId)) + 1

/-- A technical execution that was not started and not consumed. -/
def isUnused (attemptId : Pk) (eventId : Option Pk)
    (check : TechnicalCheckExecution) : Bool :=
  eventId.isNone && !(runs.any fun run => decide (run.runId = check.runId)) &&
    !(runs.any fun run => decide (run.place = (attemptId, check.ordinal)))

/-- The run id, the ordinal and the origin of a new run. -/
def origin (attemptId : Pk) (found : Context)
    (drawn : Uuid) : Uuid × Nat × ExecutionOrigin :=
  match found.technicalCheck.filter (isUnused runs attemptId found.eventId) with
  | some check => (check.runId, check.ordinal, .technicalExecution)
  | none => (drawn, nextOrdinal runs attemptId, .observation)

/-- The row that a request inserts. -/
def requestedRun (attemptId userId : Pk) (found : Context)
    (policy : Config) (drawn : Uuid) : HTTPObservationRun where
  attemptId := attemptId
  requestedById := userId
  runId := (origin runs attemptId found drawn).1
  ordinal := (origin runs attemptId found drawn).2.1
  technicalExecutionId := found.technicalCheck.map TechnicalCheckExecution.pk
  technicalEventId := found.eventId
  executionOrigin := (origin runs attemptId found drawn).2.2
  environmentUuid := found.identity.environmentUuid
  identity := found.identity
  policy := policy

/-- What a request leaves: the table, its run, and whether the run is new. -/
structure Requested where
  runs : List HTTPObservationRun
  run : HTTPObservationRun
  created : Bool

/-- The end of a request that found no unfinished run. -/
def createRun : Except Refusal Requested := do
  let inserted ← insert runs run
  pure { runs := inserted, run := run, created := true }

/-- The end of a request: the unfinished run, or a new one. -/
def provideRun (attemptId userId : Pk) (found : Context)
    (policy : Config) (drawn : Uuid) : Except Refusal Requested :=
  match activeRun? runs attemptId with
  | some active => .ok { runs := runs, run := active, created := false }
  | none =>
      createRun runs (requestedRun runs attemptId userId found policy drawn)

/--
`request_observation`, under the lock of the attempt; `drawn` is what `uuid4`
returns.
-/
def requestObservation
    (world : World) (runs : List HTTPObservationRun) (attemptId userId : Pk)
    (drawn : Uuid) : Except Refusal Requested := do
  let attempt ← required .doesNotExist (world.attempt? attemptId)
  let found ← context world attempt userId
  let policy ← loadConfig world
  provideRun runs attemptId userId found policy drawn

/-- `_current`. -/
def current (world : World)
    (run : HTTPObservationRun) : Except Refusal TaskAttempt := do
  let attempt ← required .doesNotExist (world.attempt? run.attemptId)
  let found ← context world attempt run.requestedById
  let config ← loadConfig world
  ensure (found.identity = run.identity ∧ config = run.policy ∧
      found.technicalCheck.map TechnicalCheckExecution.pk =
        run.technicalExecutionId ∧
      found.eventId = run.technicalEventId ∧ run.status = .running)
    (.validationError "stale_execution")
  pure attempt

/-- The runs with this id. -/
def run? (runId : Uuid) : Option HTTPObservationRun :=
  runs.find? fun run => decide (run.runId = runId)

/-- The update that starts a queued run. -/
def HTTPObservationRun.claimed (now : Timestamp) : HTTPObservationRun :=
  if run.status = .queued then
    { run with status := .running, startedAt := some now }
  else run

/-- The first statement of `run_observation`: the table if it claimed a row. -/
def claim?
    (runId : Uuid) (now : Timestamp) : Option (List HTTPObservationRun) :=
  if ∃ run ∈ runs, run.runId = runId ∧ run.status = .queued then
    some (Rows.modify (fun run => run.runId) runId (fun run => run.claimed now)
        runs)
  else none

/-- The `Execution` that `run_observation` makes of a run. -/
def HTTPObservationRun.execution : Execution where
  attemptId := run.attemptId
  userId := run.requestedById
  runId := run.runId
  ordinal := run.ordinal
  runtime := run.identity.runtime

/-- `run.runtime = …` with `run.save(update_fields=["runtime"])`. -/
def pin (runId : Uuid) : List HTTPObservationRun :=
  Rows.modify (fun run => run.runId) runId
    (fun run => { run with runtime := some run.execution }) runs

/-- What `_finish` writes to an unfinished row. -/
structure Finish where
  http : String
  reason : String
  result : Option Observation

/-- The update of `_finish`. -/
def HTTPObservationRun.finished (run : HTTPObservationRun) (finish : Finish)
    (now : Timestamp) : HTTPObservationRun :=
  if run.isActive = true then
    { run with
      status := .finished
      http := finish.http
      reason := finish.reason
      result := finish.result
      finishedAt := some now }
  else run

/-- `_finish`. -/
def finishRun (runId : Uuid) (finish : Finish)
    (now : Timestamp) : List HTTPObservationRun :=
  Rows.modify (fun run => run.runId) runId
    (fun run => run.finished finish now) runs

/-- `_finish` after a failure, which records nothing but the reason. -/
def Finish.unknown (reason : String) : Finish :=
  { http := "unknown", reason := reason, result := none }

/-- `_finish` with what the pilot returned. -/
def Finish.observed (observation : Observation) : Finish :=
  { http := observation.http
    reason := observation.reason
    result := some observation }

/-- The columns take the values: the check on `http`, the width of `reason`. -/
def Finish.isStorable (finish : Finish) : Bool :=
  decide (finish.http ∈ ["matched", "mismatch", "unknown"] ∧
      finish.reason.length ≤ 48)

/-- The last transaction of `run_observation`, under the attempt's lock. -/
def concludeRun (world : World) (runs : List HTTPObservationRun) (runId : Uuid)
    (observation : Observation)
    (now : Timestamp) : Except Refusal (List HTTPObservationRun) := do
  let run ← required .doesNotExist (run? runs runId)
  let _ ← current world run
  ensure ((Finish.observed observation).isStorable = true)
    (.integrityError "http_observation_http_values")
  pure (finishRun runs runId (.observed observation) now)

end TicketSandbox.Observations
