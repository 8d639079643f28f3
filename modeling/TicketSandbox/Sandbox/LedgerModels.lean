import TicketSandbox.Library.Rows
import TicketSandbox.Sandbox.Models

namespace TicketSandbox.Sandbox

/-!
# The append-only evidence ledger

The rows of the ledger tables that belong to one attempt.  The database keeps
phase events under the unique keys `(execution, phase)` and
`(operation_id, phase)`; an execution or an operation is therefore one record
here, with its requested row as the body and one optional field per later
phase.
-/

/-- `SandboxAttemptCoverage.origin`. -/
inductive CoverageOrigin where
  | creation
  | importedState
  | legacyObserved
  deriving Repr, DecidableEq

/-- `SandboxAttemptCoverage`. -/
structure AttemptCoverage where
  userId : Pk
  taskId : Pk
  attemptNumber : Nat
  origin : CoverageOrigin
  initialChecks : Nat
  initialResets : Nat

/-- `SandboxEvidenceGap.reason`; the last one is of writes past the ledger. -/
inductive GapReason where
  | unregisteredCheckRequest
  | unregisteredEnvironmentRequest
  | legacyEnvironmentDelivery
  | reviewWithoutSubmission
  | reviewVersionUnspecified
  | unsupportedUpdate

/-- `checker_kind`. -/
inductive CheckerKind where
  | taskChecker
  | serverPhp

/-- `TechnicalCheckExecution.source`. -/
inductive CheckSource where
  | service
  | legacyDelivery
  deriving Repr, DecidableEq

/-- `TechnicalCheckExecutionEvent.result`. -/
inductive ExecutionResult where
  | passed
  | failed
  | unknown
  deriving Repr, DecidableEq

/-- `TechnicalCheckExecutionEvent.failure_class`. -/
inductive FailureClass where
  | unknown
  | none
  | infrastructure
  | timeout
  | technical
  deriving Repr, DecidableEq

/-- The `reason` column of a finished phase. -/
inductive Reason where
  | blank
  | dockerError
  | exitCodeMissing
  | checkerTimeout
  | checkerLaunchError
  | checkerExitUnclassified
  | backgroundError
  | environmentError
  | dispatchError
  | alreadyRunning
  | watchdog
  | maintenanceCleanup
  deriving Repr, DecidableEq

/-- The `finished` event of an execution. -/
structure CheckFinished where
  occurredAt : Timestamp
  result : ExecutionResult
  failureClass : FailureClass
  reason : Reason
  checkerStarted : Option Bool
  exitCode : Option Int
  checkRunId : Option Pk

/-- `TechnicalCheckExecution` with its events, one per phase at most. -/
structure TechnicalCheckExecution where
  runId : Uuid
  userId : Pk
  taskId : Pk
  attemptNumber : Nat
  ordinal : Nat
  requestedAt : Timestamp
  checkerKind : CheckerKind
  criteriaDigest : Option String
  source : CheckSource
  started : Option Timestamp
  finished : Option CheckFinished
  duplicate : Option Timestamp

/-- The execution has no `finished` event. -/
def TechnicalCheckExecution.isOpen
    (execution : TechnicalCheckExecution) : Bool :=
  execution.finished.isNone

/-- `SandboxEnvironmentEvent.kind`, without the broker's `cleanup`. -/
inductive EnvironmentKind where
  | start
  | reset
  deriving Repr, DecidableEq

/-- `SandboxEnvironmentEvent.origin`. -/
inductive Origin where
  | trainee
  | maintenance
  | unknown
  deriving Repr, DecidableEq

/-- `SandboxEnvironmentEvent.outcome`. -/
inductive Outcome where
  | success
  | notStarted
  | unknown
  deriving Repr, DecidableEq

/-- The `finished` event of an environment operation. -/
structure EnvironmentFinished where
  occurredAt : Timestamp
  outcome : Outcome
  reason : Reason

/-- The `SandboxEnvironmentEvent` rows that share one operation identity. -/
structure EnvironmentOperation where
  operationId : Uuid
  userId : Pk
  taskId : Pk
  attemptNumber : Nat
  kind : EnvironmentKind
  actorId : Option Pk
  origin : Origin
  requestedAt : Timestamp
  started : Option Timestamp
  finished : Option EnvironmentFinished
  duplicate : Option Timestamp

namespace EnvironmentOperation

variable (operation : EnvironmentOperation)

/-- The operation has no `finished` event. -/
def isOpen : Bool :=
  operation.finished.isNone

/-- The request lost to an operation that was already running. -/
def isRefused : Bool :=
  match operation.finished with
  | some finish =>
      decide (finish.outcome = .notStarted ∧ finish.reason = .alreadyRunning)
  | none => false

/-- A reset that ran to its successful end. -/
def isSuccessfulReset : Bool :=
  match operation.finished with
  | some finish => decide (operation.kind = .reset ∧ finish.outcome = .success)
  | none => false

end EnvironmentOperation

/-- `SandboxAnswerSubmission`. -/
structure AnswerSubmission where
  pk : Pk
  operationId : Uuid
  userId : Pk
  taskId : Pk
  attemptNumber : Nat
  ordinal : Nat
  submittedAt : Timestamp
  clientAnswer : Text
  traineeReport : Text
  digest : Nat

/-- `SandboxAnswerReviewEvent.kind`. -/
inductive ReviewKind where
  | decision
  | correction
  deriving Repr, DecidableEq

/-- `SandboxAnswerReviewEvent`. -/
structure AnswerReviewEvent where
  pk : Pk
  submissionId : Pk
  actorId : Pk
  reviewedAt : Timestamp
  decision : MentorDecision
  comment : Text
  operationId : Uuid
  kind : ReviewKind
  supersedes : Option Pk
  deriving Repr, DecidableEq

/-- The `AchievementSourceEvent` rows that the sandbox publishes. -/
inductive SourceEvent where
  | sandboxTechnical (checkRunId : Pk)
  | sandboxReview (reviewId submissionId : Pk) (kind : ReviewKind)
  deriving Repr, DecidableEq

/-- Provider and external identity, the unique key of a source event. -/
def SourceEvent.key : SourceEvent → Bool × Pk
  | .sandboxTechnical checkRunId => (false, checkRunId)
  | .sandboxReview reviewId _ _ => (true, reviewId)

/-- Operation identities that rows of other attempts already carry. -/
structure ForeignIds where
  runs : List Uuid
  environment : List Uuid
  submissions : List Uuid
  reviews : List Uuid

/--
The database as one attempt sees it.

Each table keeps its rows in the order of their primary keys.  `serial` is
above every primary key handed out so far.  `digest` stands for the hash of
the serialised answer pair, and `isStaff` for the staff flag of each account.
-/
structure Db where
  identity : AttemptIdentity
  task : Task
  isStaff : Pk → Bool
  digest : Text → Text → Nat
  foreign : ForeignIds
  serial : Pk
  attempt : TaskAttempt
  coverage : Option AttemptCoverage
  gaps : List GapReason
  checks : List TechnicalCheckExecution
  environment : List EnvironmentOperation
  submissions : List AnswerSubmission
  reviews : List AnswerReviewEvent
  checkRuns : List CheckRun
  aiReviews : List AIReview
  sourceEvents : List SourceEvent

namespace Db

variable (db : Db)

/-- The open executions of the attempt. -/
def openChecks : List TechnicalCheckExecution :=
  db.checks.filter TechnicalCheckExecution.isOpen

/-- The open environment operations of the attempt. -/
def openEnvironment : List EnvironmentOperation :=
  db.environment.filter EnvironmentOperation.isOpen

/-- The newest `requested` environment event. -/
def latestRequest : Option EnvironmentOperation :=
  db.environment.getLast?

/-- `order_by("-ordinal").first()` over the executions. -/
def latestExecution : Option TechnicalCheckExecution :=
  Rows.newest? TechnicalCheckExecution.ordinal db.checks

/-- `order_by("-ordinal").first()` over the submissions. -/
def latestSubmission : Option AnswerSubmission :=
  Rows.newest? AnswerSubmission.ordinal db.submissions

/-- `attempt.technical_passed`, with the row as it is stored. -/
def technicalPassed (db : Db) : Bool :=
  Sandbox.technicalPassed db.attempt db.checkRuns

/-- The reviews of one submission, oldest first. -/
def reviewsOf (submissionId : Pk) : List AnswerReviewEvent :=
  db.reviews.filter fun event => event.submissionId = submissionId

/-- Look an execution up by its run identity. -/
def execution? (runId : Uuid) : Option TechnicalCheckExecution :=
  db.checks.find? fun execution => execution.runId = runId

/-- Look an environment operation up by its identity. -/
def operation? (operationId : Uuid) : Option EnvironmentOperation :=
  db.environment.find? fun operation => operation.operationId = operationId

/-- Rewrite one execution. -/
def modifyExecution (runId : Uuid)
    (change : TechnicalCheckExecution → TechnicalCheckExecution) : Db :=
  { db with
    checks := Rows.modify TechnicalCheckExecution.runId runId change db.checks }

/-- Rewrite one environment operation. -/
def modifyOperation (operationId : Uuid)
    (change : EnvironmentOperation → EnvironmentOperation) : Db :=
  { db with
    environment :=
      Rows.modify EnvironmentOperation.operationId operationId change
        db.environment }

/--
The database right after an attempt is created under the ledger: a pristine
row, its `creation` coverage, and no facts yet.
-/
def created (identity : AttemptIdentity) (task : Task) (isStaff : Pk → Bool)
    (digest : Text → Text → Nat) (foreign : ForeignIds) (serial : Pk) : Db where
  identity := identity
  task := task
  isStaff := isStaff
  digest := digest
  foreign := foreign
  serial := serial
  attempt := TaskAttempt.created
  coverage := some
      { userId := identity.userId
        taskId := identity.taskId
        attemptNumber := identity.attemptNumber
        origin := .creation
        initialChecks := TaskAttempt.created.attemptsCount
        initialResets := TaskAttempt.created.restartCount }
  gaps := []
  checks := []
  environment := []
  submissions := []
  reviews := []
  checkRuns := []
  aiReviews := []
  sourceEvents := []

end Db

end TicketSandbox.Sandbox
