import TicketSandbox.Sandbox.LedgerModels

namespace TicketSandbox.Sandbox.Ledger

/-!
# The ledger service

The functions of `services/ledger.py` as they run on the non-broker path with
a trusted writer.  Each one takes the database, the in-memory attempt it was
called with, and the values it draws from outside: the clock readings and the
identities `uuid4` would generate.  A raised exception rolls the transaction
back, so it carries no database.
-/

/-- `operation_id`: parse the given identity or generate one. -/
def operationId
    (value : OperationInput) (generated : Uuid) : Except Failure Uuid :=
  match value with
  | .absent => .ok generated
  | .malformed => .error .invalidOperationId
  | .given id => .ok id

variable (db : Db)

/-- `gap`: recorded only for attempts under coverage. -/
def gap (reason : GapReason) : Db :=
  if db.coverage.isSome then
    { db with gaps := db.gaps ++ [reason] }
  else
    db

/-- `checker_identity`. -/
def checkerIdentity (task : Task) : CheckerKind × Option String :=
  let alternative :=
    task.queueSlug = "l1" ∧ task.slug = "wordpress-500-after-move"
  (if alternative then .serverPhp else .taskChecker, task.checkerFile)

/-- `observe`: attempts without coverage get a legacy one. -/
def observe (attempt : TaskAttempt) : Db :=
  match db.coverage with
  | some _ => db
  | none =>
      { db with
        coverage := some
            { userId := db.identity.userId
              taskId := db.identity.taskId
              attemptNumber := db.identity.attemptNumber
              origin := .legacyObserved
              initialChecks := attempt.attemptsCount
              initialResets := attempt.restartCount } }

/-- The run identity is taken, here or by another attempt. -/
def runIdTaken (runId : Uuid) : Bool :=
  (db.execution? runId).isSome || db.foreign.runs.contains runId

/-- The row that `request_check` inserts. -/
def newExecution (source : CheckSource) (runId : Uuid)
    (now : Timestamp) : TechnicalCheckExecution where
  runId := runId
  userId := db.identity.userId
  taskId := db.identity.taskId
  attemptNumber := db.identity.attemptNumber
  ordinal := Rows.largest TechnicalCheckExecution.ordinal db.checks + 1
  requestedAt := now
  checkerKind := (checkerIdentity db.task).1
  criteriaDigest := (checkerIdentity db.task).2
  source := source
  started := none
  finished := none
  duplicate := none

/-- `request_check`. -/
def requestCheck (attempt : TaskAttempt) (source : CheckSource)
    (runId : OperationInput) (generated : Uuid) (now : Timestamp) :
    Except Failure (Db × TechnicalCheckExecution) :=
  let observed := observe db attempt
  match operationId runId generated with
  | .error failure => .error failure
  | .ok runId =>
      if runIdTaken observed runId then
        .error .integrityError
      else
        let execution := newExecution observed source runId now
        let recorded :=
          { observed with checks := observed.checks ++ [execution] }
        if source ≠ .service then
          .ok (gap recorded .unregisteredCheckRequest, execution)
        else
          .ok (recorded, execution)

variable (now : Timestamp)

/-- Add the `duplicate` event of an execution unless it is there. -/
def noteDuplicate (row : TechnicalCheckExecution) : TechnicalCheckExecution :=
  if row.duplicate.isNone then { row with duplicate := some now } else row

/-- Record a duplicate delivery of a run, when the run exists. -/
def recordDuplicateCheck (runId : Uuid) (now : Timestamp) : Db :=
  db.modifyExecution runId (noteDuplicate now)

/-- Add the `started` event of an execution. -/
def startExecution (row : TechnicalCheckExecution) : TechnicalCheckExecution :=
  { row with started := some now }

/-- The execution has an event of any phase. -/
def hasEvents (execution : TechnicalCheckExecution) : Bool :=
  execution.started.isSome || execution.finished.isSome ||
    execution.duplicate.isSome

/-- `begin_check`: only the first delivery of a run starts it. -/
def beginCheck (runId : Uuid) (now : Timestamp) :
    Except Failure (Db × TechnicalCheckExecution × Bool) :=
  match db.execution? runId with
  | none => .error .executionMissing
  | some execution =>
      if hasEvents execution then
        .ok (recordDuplicateCheck db runId now, execution, false)
      else
        .ok (db.modifyExecution runId (startExecution now), execution, true)

/-- `check_live`: a closed execution accepts no late result. -/
def checkLive (execution : Option Uuid) : Except Failure Unit :=
  match execution with
  | none => .ok ()
  | some runId =>
      match db.execution? runId with
      | some row =>
          if row.finished.isSome then .error .executionClosed else .ok ()
      | none => .ok ()

/-- Add the `finished` event of an execution unless it is there. -/
def closeExecution (finish : CheckFinished)
    (row : TechnicalCheckExecution) : TechnicalCheckExecution :=
  if row.finished.isNone then { row with finished := some finish } else row

/-- `finish_check`: the first `finished` event of an execution stands. -/
def finishCheck (execution : Option Uuid) (finish : CheckFinished) : Db :=
  match execution with
  | none => db
  | some runId => db.modifyExecution runId (closeExecution finish)

/-- The defaults of `finish_check`, at one instant. -/
def unknownFinish (reason : Reason) (now : Timestamp) : CheckFinished where
  occurredAt := now
  result := .unknown
  failureClass := .unknown
  reason := reason
  checkerStarted := none
  exitCode := none
  checkRunId := none

/-- An operation identity that a row of another attempt carries. -/
def foreignOperation (operationId : Uuid) : Bool :=
  db.foreign.environment.contains operationId

/-- The `requested` row that `request_environment` inserts. -/
def newOperation (identity : AttemptIdentity) (kind : EnvironmentKind)
    (actor : Option Pk) (origin : Origin) (operation : Uuid)
    (now : Timestamp) : EnvironmentOperation where
  operationId := operation
  userId := identity.userId
  taskId := identity.taskId
  attemptNumber := identity.attemptNumber
  kind := kind
  actorId := actor
  origin := origin
  requestedAt := now
  started := none
  finished := none
  duplicate := none

/-- `request_environment`. -/
def requestEnvironment (attempt : TaskAttempt) (kind : EnvironmentKind)
    (actor : Option Pk) (origin : Origin) (opId : OperationInput)
    (generated : Uuid) (now : Timestamp) :
    Except Failure (Db × EnvironmentOperation × Bool) :=
  if origin = .trainee ∧ actor ≠ some db.identity.userId then
    .error .permissionDenied
  else if origin = .maintenance ∧ (actor.map db.isStaff) = some false then
    .error .permissionDenied
  else
    match operationId opId generated with
    | .error failure => .error failure
    | .ok op =>
        if foreignOperation db op then
          .error .operationIdConflict
        else
          match db.operation? op with
          | some old =>
              if old.kind = kind ∧ old.origin = origin ∧
                  old.actorId = actor then
                .ok (db, old, false)
              else
                .error .operationIdConflict
          | none =>
              let observed := observe db attempt
              let event := newOperation db.identity kind actor origin op now
              .ok ({ observed with
                    environment := observed.environment ++ [event] },
                  event,
                  true)

/-- Add the `started` event of an operation unless it is there. -/
def startOperation (row : EnvironmentOperation) : EnvironmentOperation :=
  if row.started.isNone then { row with started := some now } else row

/-- `environment_phase` for `started`. -/
def environmentStarted (op : Uuid) (now : Timestamp) : Db :=
  db.modifyOperation op (startOperation now)

/-- Add the `duplicate` event of an operation unless it is there. -/
def noteDuplicateOperation
    (row : EnvironmentOperation) : EnvironmentOperation :=
  if row.duplicate.isNone then { row with duplicate := some now } else row

/-- `environment_phase` for `duplicate`. -/
def environmentDuplicate (op : Uuid) (now : Timestamp) : Db :=
  db.modifyOperation op (noteDuplicateOperation now)

/-- Add the `finished` event of an operation unless it is there. -/
def closeOperation (finish : EnvironmentFinished)
    (row : EnvironmentOperation) : EnvironmentOperation :=
  if row.finished.isNone then { row with finished := some finish } else row

/-- `environment_phase` for `finished`. -/
def environmentFinished (op : Uuid) (finish : EnvironmentFinished) : Db :=
  db.modifyOperation op (closeOperation finish)

/-- The request of `begin_environment`, looked up by identity and kind. -/
def registeredRequest (kind : EnvironmentKind)
    (opId : OperationInput) : Option EnvironmentOperation :=
  match opId with
  | .given op =>
      db.environment.find? fun operation =>
        operation.operationId = op ∧ operation.kind = kind
  | _ => none

/-- The `finished` event of an operation cut short for some reason. -/
def interruptedFinish (reason : Reason) (now : Timestamp) :
    EnvironmentFinished where
  occurredAt := now
  outcome := .unknown
  reason := reason

/-- The `finished` event of a request that came too late. -/
def refusedFinish : EnvironmentFinished where
  occurredAt := now
  outcome := .notStarted
  reason := .alreadyRunning

/-- The second half of `begin_environment`, once the request is known. -/
def beginRequested (request : EnvironmentOperation)
    (now : Timestamp) : Db × EnvironmentOperation × Bool :=
  let row := (db.operation? request.operationId).getD request
  if row.started.isSome ∨ row.finished.isSome then
    (environmentDuplicate db request.operationId now, request, false)
  else if db.environment.any fun other =>
      other.operationId ≠ request.operationId && other.isOpen then
    (environmentFinished db request.operationId (refusedFinish now), request,
      false)
  else
    (environmentStarted db request.operationId now, request, true)

/-- `begin_environment`: only one operation of an attempt runs at a time. -/
def beginEnvironment
    (attempt : TaskAttempt) (kind : EnvironmentKind) (opId : OperationInput)
    (actor : Option Pk) (origin : Origin) (generated : Uuid) (now : Timestamp) :
    Except Failure (Db × EnvironmentOperation × Bool) :=
  match registeredRequest db kind opId with
  | some request => .ok (beginRequested db request now)
  | none =>
      let noted :=
        if opId = .absent ∧ origin = .unknown then
          gap (observe db attempt) .unregisteredEnvironmentRequest
        else
          db
      if kind = .start ∧ origin = .trainee ∧ attempt.containerName ≠ "" then
        .error .resetRequired
      else
        match requestEnvironment noted attempt kind actor origin opId
            generated now with
        | .error failure => .error failure
        | .ok (requested, request, _) =>
            .ok (beginRequested requested request now)

/-- `environment_live`: a closed operation accepts no late result. -/
def environmentLive (op : Uuid) : Except Failure Unit :=
  match db.operation? op with
  | some row =>
      if row.finished.isSome then .error .environmentClosed else .ok ()
  | none => .ok ()

/-- `interrupt`: close everything of the attempt that is open. -/
def interrupt (db : Db) (reason : Reason) (now : Timestamp) : Db :=
  { db with
    checks := db.checks.map (closeExecution (unknownFinish reason now))
    environment :=
      db.environment.map (closeOperation (interruptedFinish reason now)) }

/-- The row that `submit_answer` inserts. -/
def newSubmission (operation : Uuid) (clientAnswer traineeReport : Text)
    (now : Timestamp) : AnswerSubmission where
  pk := db.serial
  operationId := operation
  userId := db.identity.userId
  taskId := db.identity.taskId
  attemptNumber := db.identity.attemptNumber
  ordinal := Rows.largest AnswerSubmission.ordinal db.submissions + 1
  submittedAt := now
  clientAnswer := clientAnswer
  traineeReport := traineeReport
  digest := db.digest clientAnswer traineeReport

/-- `submit_answer`. -/
def submitAnswer (attempt : TaskAttempt) (clientAnswer traineeReport : Text)
    (opId : OperationInput) (generated : Uuid) (now : Timestamp) :
    Except Failure (Db × AnswerSubmission × Bool) :=
  if ¬ db.identity.isCreditAttempt ∨ ¬ db.task.requiresManualReview ∨
      ¬ db.technicalPassed then
    .error .notReviewedAnswer
  else
    let observed := observe db attempt
    match operationId opId generated with
    | .error failure => .error failure
    | .ok op =>
        let body := db.digest clientAnswer traineeReport
        if db.foreign.submissions.contains op then
          .error .submissionConflict
        else
          match db.submissions.find? fun row => row.operationId = op with
          | some old =>
              if old.digest ≠ body then .error .submissionConflict
              else .ok (observed, old, false)
          | none =>
              let submission :=
                newSubmission observed op clientAnswer traineeReport now
              .ok ({ observed with
                    serial := observed.serial + 1
                    submissions := observed.submissions ++ [submission] },
                  submission,
                  true)

variable (submission : AnswerSubmission)

/-- The stored draft is the submitted text, up to surrounding whitespace. -/
def draftIsSubmitted : Bool :=
  strip db.attempt.clientAnswer = strip submission.clientAnswer &&
    strip db.attempt.traineeReport = strip submission.traineeReport

/-- The event continues the chain of reviews of the newest submission. -/
def isChained (event : AnswerReviewEvent) : Bool :=
  let previous := (db.reviewsOf submission.pk).getLast?
  db.latestSubmission.map AnswerSubmission.pk = some event.submissionId &&
    event.supersedes = previous.map AnswerReviewEvent.pk &&
    event.kind = (if previous.isSome then .correction else .decision)

/-- `SandboxAnswerReviewEvent.save`, with its own validation. -/
def saveReview (event : AnswerReviewEvent) : Except Failure Db :=
  if ¬ db.isStaff event.actorId then
    .error .staffRequired
  else if ¬ (submission.userId = db.identity.userId ∧
      submission.taskId = db.identity.taskId ∧
      submission.attemptNumber = db.identity.attemptNumber) then
    .error .submissionIdentityMismatch
  else if ¬ draftIsSubmitted db submission then
    .error .submittedTextRequired
  else if ¬ isChained db submission event then
    .error .reviewChainRequired
  else
    .ok
      { db with serial := db.serial + 1, reviews := db.reviews ++ [event] }

/-- `publish`: a source event is recorded once under its key. -/
def publish (event : SourceEvent) : Except Failure Db :=
  match db.sourceEvents.find? fun row => row.key = event.key with
  | some existing =>
      if existing = event then .ok db else .error .sourceContentChanged
  | none => .ok { db with sourceEvents := db.sourceEvents ++ [event] }

/-- The submissions that `review_answer` selects from. -/
def ownSubmissions : List AnswerSubmission :=
  db.submissions.filter fun submission =>
    submission.userId = db.identity.userId ∧
      submission.taskId = db.identity.taskId

/-- A first attempt at the first line, whose reviews are published. -/
def publishesReviews : Bool :=
  db.identity.attemptNumber == 1 && db.task.queueSlug == "l1"

/-- The row that `review_answer` inserts. -/
def newReview
    (actor : Pk) (decision : MentorDecision) (comment : Text) (operation : Uuid)
    (now : Timestamp) : AnswerReviewEvent :=
  let last := (db.reviewsOf submission.pk).getLast?
  { pk := db.serial
    submissionId := submission.pk
    actorId := actor
    reviewedAt := now
    decision := decision
    comment := comment
    operationId := operation
    kind := if last.isSome then .correction else .decision
    supersedes := last.map AnswerReviewEvent.pk }

/-- The part of `review_answer` after its staleness checks. -/
def recordReview (actor : Pk) (decision : MentorDecision) (comment : Text)
    (opId : OperationInput) (generated : Uuid) (now : Timestamp) :
    Except Failure (Db × Option AnswerReviewEvent) :=
  match operationId opId generated with
  | .error failure => .error failure
  | .ok op =>
      if db.foreign.reviews.contains op then
        .error .reviewConflict
      else
        match db.reviews.find? fun event => event.operationId = op with
        | some previous =>
            if previous.submissionId = submission.pk ∧
                previous.actorId = actor ∧
                previous.decision = decision ∧
                previous.comment = comment then
              .ok (db, some previous)
            else
              .error .reviewConflict
        | none =>
            let last := (db.reviewsOf submission.pk).getLast?
            if last.any fun event =>
                event.actorId = actor ∧ event.decision = decision ∧
                  event.comment = comment then
              .ok (db, last)
            else
              let event := newReview db submission actor decision comment op now
              match saveReview db submission event with
              | .error failure => .error failure
              | .ok saved =>
                  if publishesReviews db ∧
                      last.map AnswerReviewEvent.decision ≠ some decision then
                    match publish saved
                        (.sandboxReview event.pk submission.pk event.kind) with
                    | .error failure => .error failure
                    | .ok published => .ok (published, some event)
                  else
                    .ok (saved, some event)

/-- `review_answer`. -/
def reviewAnswer (attempt : TaskAttempt) (actor : Pk)
    (decision : MentorDecision) (comment : Text) (submissionId : Option Pk)
    (opId : OperationInput) (generated : Uuid) (now : Timestamp) :
    Except Failure (Db × Option AnswerReviewEvent) :=
  if ¬ db.isStaff actor then
    .error .permissionDenied
  else
    let observed := observe db attempt
    match Rows.newest? AnswerSubmission.ordinal (ownSubmissions db) with
    | none =>
        if submissionId.isSome then .error .foreignSubmission
        else .ok (gap observed .reviewWithoutSubmission, none)
    | some submission =>
        if submissionId.isSome ∧ submissionId ≠ some submission.pk then
          .error .staleSubmission
        else
          let noted :=
            if submissionId.isNone then gap observed .reviewVersionUnspecified
            else observed
          if ¬ draftIsSubmitted noted submission then
            .error .draftNotSubmitted
          else
            recordReview noted submission actor decision comment opId
              generated now

end TicketSandbox.Sandbox.Ledger
