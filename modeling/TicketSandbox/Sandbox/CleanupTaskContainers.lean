import TicketSandbox.Sandbox.Transactions

namespace TicketSandbox.Sandbox.CleanupTaskContainers

/-!
# The container cleanup command

`cleanup_task_containers` finds attempts whose environment is older than 72
hours, and for each of them commits one transaction, removes two containers
and commits another one.  Its cleanup requests live in the environment ledger
next to the start and reset operations, so they stand beside the system of
requests and workers here.
-/

/-- `expired_time`. -/
def expiredTime (now : Timestamp) : Timestamp :=
  now - 72 * 60 * 60 * 1000000

/-- Which of the two loops of the command handles the attempt. -/
inductive CleanupLoop where
  | unfinished
  | passed

/-- The filter of `unfinished_attempts`. -/
def isUnfinished (attempt : TaskAttempt) (expired : Timestamp) : Bool :=
  attempt.finishedAt.isNone &&
    DetectStuckAttempts.isBefore attempt.startedAt expired &&
    attempt.technicalPassedAt.isNone

/-- The filter of `passed_attempts`. -/
def isPassed (db : Db) (expired : Timestamp) : Bool :=
  db.attempt.finishedAt.isNone && decide (db.attempt.status = .inProgress) &&
    DetectStuckAttempts.isBefore db.attempt.technicalPassedAt expired &&
    db.task.requiresManualReview &&
    db.identity.isCreditAttempt &&
    db.attempt.isCurrent &&
    !decide
      (db.attempt.containerName = "" ∧ db.attempt.terminalContainerName = "")

/-- The attempt is in the query result of the loop. -/
def isExpired (loop : CleanupLoop) (db : Db) (expired : Timestamp) : Bool :=
  match loop with
  | .unfinished => isUnfinished db.attempt expired
  | .passed => isPassed db expired

/--
The `SandboxEnvironmentEvent` rows of one `cleanup` request of the command.
`behind` is the number of start and reset requests that are older.
-/
structure CleanupRequest where
  operationId : Uuid
  requestedAt : Timestamp
  behind : Nat
  started : Option Timestamp
  finished : Option EnvironmentFinished

namespace CleanupRequest

/-- The request has no `finished` event. -/
def isOpen (request : CleanupRequest) : Bool :=
  request.finished.isNone

/-- Add the `finished` event of a request unless it is there. -/
def close (finish : EnvironmentFinished)
    (request : CleanupRequest) : CleanupRequest :=
  if request.finished.isNone then
    { request with finished := some finish }
  else
    request

end CleanupRequest

/-- Where the command stands with the attempt. -/
inductive Round where
  | idle
  | found (loop : CleanupLoop) (copy : TaskAttempt)
  | removingContainer (loop : CleanupLoop) (copy : TaskAttempt) (request : Uuid)
  | removingTerminal (loop : CleanupLoop) (copy : TaskAttempt) (request : Uuid)
  | removed (loop : CleanupLoop) (request : Uuid)
  | saving (loop : CleanupLoop) (copy : TaskAttempt) (passed : Bool)
      (request : Uuid)

/--
The attempt with its threads, the cleanup requests of its ledger, the
progress of the command, and the container names it handed to Docker.
-/
structure Workspace where
  system : System
  cleanups : List CleanupRequest
  round : Round
  dropped : List String

/-- What the command writes into the container columns. -/
def cleared (attempt : TaskAttempt) : TaskAttempt :=
  { attempt with
    containerId := ""
    containerName := ""
    shellCommand := ""
    terminalContainerName := ""
    terminalUrl := ""
    terminalPort := none
    environmentStatus := .idle
    environmentStartedAt := none
    environmentFinishedAt := none
    stuckReason := .none }

/--
The columns that the final save writes.  The loop over unfinished attempts
saves the status and the check columns of the copy it refreshed before.
-/
def savedAttempt (loop : CleanupLoop) (attempt copy : TaskAttempt)
    (passed : Bool) : TaskAttempt :=
  match loop with
  | .unfinished =>
      { cleared attempt with
        status := if passed then copy.status else .new
        checkStatus := if passed then copy.checkStatus else .idle
        checkStartedAt := if passed then copy.checkStartedAt else none
        checkFinishedAt := if passed then copy.checkFinishedAt else none }
  | .passed => cleared attempt

/-- The `finished` event that the final transaction adds. -/
def savedFinish (now : Timestamp) : EnvironmentFinished where
  occurredAt := now
  outcome := .success
  reason := .blank

/--
The database after the first transaction: everything open is interrupted, and
the identity of the cleanup request is taken.
-/
def lockedDb (db : Db) (generated : Uuid) (now : Timestamp) : Db :=
  let interrupted := Ledger.interrupt db .maintenanceCleanup now
  let observed := Ledger.observe interrupted db.attempt
  { observed with
    foreign :=
      { observed.foreign with
        environment := generated :: observed.foreign.environment } }

/--
`begin_environment` while a cleanup request is open: the operation is noted as
a duplicate or refused.
-/
def refuseRequested
    (db : Db) (request : EnvironmentOperation) (now : Timestamp) : Db :=
  let row := (db.operation? request.operationId).getD request
  if row.started.isSome ∨ row.finished.isSome then
    Ledger.environmentDuplicate db request.operationId now
  else
    Ledger.environmentFinished db request.operationId (Ledger.refusedFinish now)

/-- The transaction of a delivered operation while a cleanup is open. -/
def refuseEnvironment (db : Db) (copy : TaskAttempt) (kind : EnvironmentKind)
    (operation generated : Uuid)
    (now : Timestamp) : Except Failure (Db × Reply) :=
  match Ledger.registeredRequest db kind (.given operation) with
  | some request => .ok (refuseRequested db request now, .begun false)
  | none =>
      match Ledger.requestEnvironment db copy kind none .unknown
          (.given operation) generated now with
      | .error failure => .error failure
      | .ok (requested, request, _) =>
          .ok (refuseRequested requested request now, .begun false)

/--
Run one transaction beside the cleanup requests.  An open one refuses other
operations, and any one keeps an environment error from being imported.
-/
def perform (cleanups : List CleanupRequest) (db : Db)
    (transaction : Transaction) : Except Failure (Db × Reply) :=
  match transaction with
  | .beginEnvironment kind copy operation generated now =>
      if cleanups.any CleanupRequest.isOpen then
        refuseEnvironment db copy kind operation generated now
      else
        db.perform transaction
  | .markEnvironmentError .. =>
      if cleanups ≠ [] ∧ ¬ db.attempt.environmentStatus.isSpinning then
        .ok (db, .done)
      else
        db.perform transaction
  | .dispatchFailed _ _ operation _ _ now =>
      if cleanups ≠ [] ∧ ¬ db.attempt.environmentStatus.isSpinning then
        .ok (Ledger.environmentFinished db operation
            (Ledger.interruptedFinish .dispatchError now),
            .done)
      else
        db.perform transaction
  | _ => db.perform transaction

/-- The `finished` event that a transaction gives to all open operations. -/
def interruption? (db : Db) : Transaction → Option EnvironmentFinished
  | .interrupt reason now => some (Ledger.interruptedFinish reason now)
  | .markStuck kind _ _ closedAt =>
      if DetectStuckAttempts.stillStuck kind db then
        some (Ledger.interruptedFinish .watchdog closedAt)
      else
        none
  | .markEnvironmentError _ _ _ _ now =>
      if db.attempt.environmentStatus.isSpinning then
        some (Ledger.interruptedFinish .environmentError now)
      else
        none
  | .dispatchFailed _ _ _ _ _ now =>
      if db.attempt.environmentStatus.isSpinning then
        some (Ledger.interruptedFinish .environmentError now)
      else
        none
  | _ => none

/-- The cleanup requests after a committed transaction. -/
def interruptCleanups (db : Db) (transaction : Transaction)
    (cleanups : List CleanupRequest) : List CleanupRequest :=
  match interruption? db transaction with
  | some finish => cleanups.map (CleanupRequest.close finish)
  | none => cleanups

/-- The steps beside the command and the steps of the command. -/
inductive Step where
  | other (action : Action)
  | query (loop : CleanupLoop) (now : Timestamp)
  | lock (generated : Uuid) (now : Timestamp)
  | remove
  | raise
  | refresh
  | save (now : Timestamp)

namespace Workspace

variable (workspace : Workspace)

/-- The newest environment request of the attempt is a cleanup. -/
def cleanupIsNewest : Bool :=
  workspace.cleanups.getLast?.any fun request =>
    decide (request.behind = workspace.system.db.environment.length)

/-- A reading step; a failed worker sees a newer cleanup request. -/
def read? (thread : Nat) : Option System :=
  match workspace.system.threads thread with
  | .environmentFailed _ _ =>
      if workspace.cleanupIsNewest then
        some (workspace.system.setThread thread .returned)
      else
        workspace.system.step? (.read thread)
  | _ => workspace.system.step? (.read thread)

/-- Run the transaction of an action, as `System.step?` does. -/
def run?
    (transaction : Transaction) (thread? : Option Nat) : Option Workspace :=
  let system := workspace.system
  let move (system : System) (next : Thread → Thread) : System :=
    match thread? with
    | some thread => system.setThread thread (next (system.threads thread))
    | none => system
  if system.db.drawsUnused transaction then
    match perform workspace.cleanups system.db transaction with
    | .ok (db, reply) =>
        some
          { workspace with
            system := move { system with db := db } fun stood =>
                stood.committed db reply
            cleanups :=
              interruptCleanups system.db transaction workspace.cleanups }
    | .error _ => some { workspace with system := move system Thread.raised }
  else
    none

/-- A step of a request, a worker, the watchdog or other code. -/
def other? (action : Action) : Option Workspace :=
  match action with
  | .call _ =>
      match workspace.system.transaction? action with
      | none => none
      | some transaction => workspace.run? transaction none
  | .commit thread _ =>
      match workspace.system.transaction? action with
      | none => none
      | some transaction => workspace.run? transaction (some thread)
  | .read thread =>
      (workspace.read? thread).map fun system =>
        { workspace with system := system }
  | _ =>
      (workspace.system.step? action).map fun system =>
        { workspace with system := system }

/-- The first transaction of a round. -/
def lock? (generated : Uuid) (now : Timestamp) : Option Workspace :=
  let db := workspace.system.db
  match workspace.round with
  | .found loop copy =>
      if db.isUnused generated then
        some
          { workspace with
            system := { workspace.system with db := lockedDb db generated now }
            cleanups := workspace.cleanups.map (CleanupRequest.close
                    (Ledger.interruptedFinish .maintenanceCleanup now)) ++
                [{ operationId := generated
                   requestedAt := now
                   behind := db.environment.length
                   started := some now
                   finished := none }]
            round := .removingContainer loop copy generated }
      else
        none
  | _ => none

/-- A Docker removal by the name that the query read, if there is one. -/
def remove? : Option Workspace :=
  match workspace.round with
  | .removingContainer loop copy request =>
      some
        { workspace with
          round := .removingTerminal loop copy request
          dropped := workspace.dropped ++
              if copy.containerName = "" then [] else [copy.containerName] }
  | .removingTerminal loop copy request =>
      some
        { workspace with
          round :=
            match loop with
            | .unfinished => .removed loop request
            | .passed => .saving loop copy true request
          dropped := workspace.dropped ++
              if copy.terminalContainerName = "" then []
              else [copy.terminalContainerName] }
  | _ => none

/-- A Docker removal raises, and the command ends. -/
def raise? : Option Workspace :=
  match workspace.round with
  | .removingContainer .. => some { workspace with round := .idle }
  | .removingTerminal .. => some { workspace with round := .idle }
  | _ => none

/-- `refresh_from_db`, and the technical success that is read with it. -/
def refresh? : Option Workspace :=
  match workspace.round with
  | .removed loop request =>
      some
        { workspace with
          round := .saving loop workspace.system.db.attempt
              workspace.system.db.technicalPassed request }
  | _ => none

/-- The final transaction of a round. -/
def save? (now : Timestamp) : Option Workspace :=
  let db := workspace.system.db
  match workspace.round with
  | .saving loop copy passed request =>
      some
        { workspace with
          system :=
            { workspace.system with
              db :=
                { db with
                  attempt := savedAttempt loop db.attempt copy passed } }
          cleanups := Rows.modify CleanupRequest.operationId request
              (CleanupRequest.close (savedFinish now)) workspace.cleanups
          round := .idle }
  | _ => none

/-- The next state, or `none` where the step cannot happen. -/
def step? : Step → Option Workspace
  | .other action => workspace.other? action
  | .query loop now =>
      match workspace.round with
      | .idle =>
          if isExpired loop workspace.system.db (expiredTime now) then
            some
              { workspace with
                round := .found loop workspace.system.db.attempt }
          else
            none
      | _ => none
  | .lock generated now => workspace.lock? generated now
  | .remove => workspace.remove?
  | .raise => workspace.raise?
  | .refresh => workspace.refresh?
  | .save now => workspace.save? now

/-- The attempt right after its creation, before any cleanup. -/
def created (system : System) : Workspace where
  system := system
  cleanups := []
  round := .idle
  dropped := []

end Workspace

end TicketSandbox.Sandbox.CleanupTaskContainers
