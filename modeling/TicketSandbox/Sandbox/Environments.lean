import TicketSandbox.Sandbox.Ledger

namespace TicketSandbox.Sandbox.Environments

/-!
# Task environments

The transactions of `services/environments.py` and of the `environment`
wrapper, without the terminal broker.  Containers are created and removed
between transactions; what Docker answered is an argument.
-/

/-- `ENVIRONMENT_STARTING_OUTPUT`. -/
def environmentStartingOutput : String :=
  "Окружение запускается. Это может занять несколько секунд..."

/-- `ENVIRONMENT_RESTARTING_OUTPUT`. -/
def environmentRestartingOutput : String :=
  "Окружение перезапускается. Это может занять несколько секунд..."

/-- The update of `try_mark_environment_starting`. -/
def markedStarting (attempt : TaskAttempt) (now : Timestamp) : TaskAttempt :=
  { attempt with
    environmentStatus := .starting
    environmentStartedAt := some now
    environmentFinishedAt := none
    lastCheckOutput := environmentStartingOutput
    stuckReason := .none }

/-- The update of `try_mark_environment_restarting`. -/
def markedRestarting (attempt : TaskAttempt) (now : Timestamp) : TaskAttempt :=
  { attempt with
    environmentStatus := .restarting
    environmentStartedAt := some now
    environmentFinishedAt := none
    finishedAt := none
    lastCheckOutput := environmentRestartingOutput
    checkStatus := .idle
    checkStartedAt := none
    checkFinishedAt := none
    stuckReason := .none }

variable (kind : EnvironmentKind)

/-- The update of either request, by kind. -/
def marked (attempt : TaskAttempt) (now : Timestamp) : TaskAttempt :=
  match kind with
  | .start => markedStarting attempt now
  | .reset => markedRestarting attempt now

/--
The body that both `try_mark_environment_*` functions share.  The clock is
read twice: `requestedAt` for the ledger and `now` for the row.
-/
def tryMarkEnvironment (kind : EnvironmentKind) (db : Db) (copy : TaskAttempt)
    (actor : Option Pk) (origin : Origin) (opId : OperationInput)
    (generated : Uuid) (requestedAt now : Timestamp) :
    Except Failure (Db × Option Uuid) :=
  match Ledger.requestEnvironment db copy kind actor origin opId
      generated requestedAt with
  | .error failure => .error failure
  | .ok (requested, _, false) => .ok (requested, none)
  | .ok (requested, event, true) =>
      if requested.attempt.environmentStatus.isSpinning then
        .ok (Ledger.environmentFinished requested event.operationId
              (Ledger.refusedFinish now),
            none)
      else
        .ok ({ requested with attempt := marked kind requested.attempt now },
            some event.operationId)

variable (db : Db) (copy : TaskAttempt)

/-- `try_mark_environment_starting`. -/
def tryMarkEnvironmentStarting (actor : Option Pk) (origin : Origin)
    (opId : OperationInput) (generated : Uuid) (requestedAt now : Timestamp) :
    Except Failure (Db × Option Uuid) :=
  tryMarkEnvironment .start db copy actor origin opId generated requestedAt now

/-- `try_mark_environment_restarting`. -/
def tryMarkEnvironmentRestarting (actor : Option Pk) (origin : Origin)
    (opId : OperationInput) (generated : Uuid) (requestedAt now : Timestamp) :
    Except Failure (Db × Option Uuid) :=
  tryMarkEnvironment .reset db copy actor origin opId generated requestedAt now

/-- The containers and the terminal that Docker created. -/
structure Launch where
  containerId : String
  containerName : String
  terminalContainerName : String
  terminalPort : Option Nat
  terminalUrl : String

/-- The columns that a successful start saves. -/
def started
    (attempt : TaskAttempt) (launch : Launch) (now : Timestamp) : TaskAttempt :=
  { attempt with
    status := .inProgress
    startedAt := some now
    containerId := launch.containerId
    containerName := launch.containerName
    terminalContainerName := launch.terminalContainerName
    terminalPort := launch.terminalPort
    terminalUrl := launch.terminalUrl
    shellCommand := "docker exec -it " ++ launch.containerName ++ " bash"
    lastCheckOutput :=
      "Контейнер " ++ launch.containerName ++ " успешно создан."
    environmentStatus := .ready
    environmentFinishedAt := some now }

/--
The columns that a successful restart saves.  The restart counter comes from
the in-memory copy that the worker holds.
-/
def restarted (attempt copy : TaskAttempt) (launch : Launch)
    (now : Timestamp) : TaskAttempt :=
  { started attempt launch now with
    restartCount := copy.restartCount + 1
    finishedAt := none
    lastCheckOutput :=
      "Контейнер " ++ launch.containerName ++ " перезапущен. " ++
        "Окружение задания возвращено в начальное состояние."
    checkStatus := .idle
    checkStartedAt := none
    checkFinishedAt := none }

/-- The columns that a successful operation of either kind saves. -/
def launched (attempt copy : TaskAttempt) (launch : Launch)
    (now : Timestamp) : TaskAttempt :=
  match kind with
  | .start => started attempt launch now
  | .reset => restarted attempt copy launch now

/-- The `finished` event of a successful operation. -/
def launchedFinish (now : Timestamp) : EnvironmentFinished where
  occurredAt := now
  outcome := .success
  reason := .blank

/-- The final transaction of `run_environment_start` and `_restart`. -/
def saveLaunched
    (kind : EnvironmentKind) (db : Db) (copy : TaskAttempt) (request : Uuid)
    (launch : Launch) (now : Timestamp) : Except Failure Db :=
  match Ledger.environmentLive db request with
  | .error failure => .error failure
  | .ok _ =>
      .ok (Ledger.environmentFinished
          { db with attempt := launched kind db.attempt copy launch now }
          request
          (launchedFinish now))

/-- The `except` branch of the `environment` wrapper. -/
def closeRaisedEnvironment (request : Uuid) (now : Timestamp) : Db :=
  Ledger.environmentFinished db request
    (Ledger.interruptedFinish .environmentError now)

/-- The first line of the output that an environment error saves. -/
def environmentErrorOutput : String :=
  match kind with
  | .start =>
      "Не удалось запустить окружение задания из-за ошибки Docker API.\n\n"
  | .reset => "Не удалось перезапустить окружение из-за ошибки Docker API.\n\n"

/-- Close everything open and save the failed environment. -/
def failEnvironment (error : String) (now : Timestamp) : Db :=
  let closed := Ledger.interrupt db .environmentError now
  { closed with
    attempt :=
      { closed.attempt with
        status := .failed
        environmentStatus := .error
        environmentFinishedAt := some now
        lastCheckOutput := environmentErrorOutput kind ++ error } }

/-- The body that both `mark_environment_*_error` functions share. -/
def markEnvironmentError
    (error : String) (generated : Uuid) (now : Timestamp) : Except Failure Db :=
  if db.attempt.environmentStatus.isSpinning then
    .ok (failEnvironment kind db error now)
  else if db.technicalPassed ∨ db.environment ≠ [] then
    .ok db
  else
    match Ledger.requestEnvironment
        (Ledger.gap db .legacyEnvironmentDelivery) copy kind none .unknown
        .absent generated now with
    | .error failure => .error failure
    | .ok (requested, _, _) => .ok (failEnvironment kind requested error now)

/-- `mark_environment_start_error`. -/
def markEnvironmentStartError
    (error : String) (generated : Uuid) (now : Timestamp) : Except Failure Db :=
  markEnvironmentError .start db copy error generated now

/-- `mark_environment_restart_error`. -/
def markEnvironmentRestartError
    (error : String) (generated : Uuid) (now : Timestamp) : Except Failure Db :=
  markEnvironmentError .reset db copy error generated now

/-- The error branch of either `dispatch`, when the queue refuses a task. -/
def dispatchFailed (operation : Uuid)
    (error : String) (generated : Uuid) (now : Timestamp) : Except Failure Db :=
  markEnvironmentError kind (Ledger.environmentFinished db operation
      (Ledger.interruptedFinish .dispatchError now))
    copy error generated now

/-- `cleanup_attempt_environment`: which columns of the copy it clears. -/
def cleanedCopy (terminalRemoved containerRemoved : Bool) : TaskAttempt :=
  let terminal :=
    if copy.terminalContainerName = "" ∨ terminalRemoved then
      { copy with
        terminalContainerName := ""
        terminalUrl := ""
        terminalPort := none }
    else
      copy
  if terminal.containerName = "" ∨ containerRemoved then
    { terminal with containerId := "", containerName := "", shellCommand := "" }
  else
    terminal

/--
`cleanup_attempt_environment`.  The columns it cleared on the stale copy are
saved over the row, and with no container left the environment becomes idle.
-/
def cleanupAttemptEnvironment (terminalRemoved containerRemoved : Bool) : Db :=
  let cleaned := cleanedCopy copy terminalRemoved containerRemoved
  let terminalSaved :=
    if cleaned.terminalContainerName = "" ∧
        (copy.terminalContainerName ≠ "" ∨ copy.terminalUrl ≠ "" ∨
          copy.terminalPort ≠ none) then
      { db.attempt with
        terminalContainerName :=
          if copy.terminalContainerName ≠ "" then ""
          else db.attempt.terminalContainerName
        terminalUrl := ""
        terminalPort := none }
    else
      db.attempt
  let containerSaved :=
    if cleaned.containerName = "" ∧
        (copy.containerName ≠ "" ∨ copy.containerId ≠ "" ∨
          copy.shellCommand ≠ "") then
      { terminalSaved with
        containerId := ""
        containerName :=
          if copy.containerName ≠ "" then "" else terminalSaved.containerName
        shellCommand := "" }
    else
      terminalSaved
  let row :=
    if cleaned.containerName = "" ∧ cleaned.terminalContainerName = "" then
      { containerSaved with
        environmentStatus := .idle
        environmentStartedAt := none
        environmentFinishedAt := none }
    else
      containerSaved
  { db with attempt := row }

end TicketSandbox.Sandbox.Environments
