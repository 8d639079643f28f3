import TicketSandbox.Sandbox.Environments

namespace TicketSandbox.Sandbox.Checks

/-!
# Technical checks

The transactions of `services/checks.py` and of the `checked` wrapper around
`run_attempt_check`.  The checker itself runs between transactions; its
outcome is an argument.
-/

/-- What `check_task_container` did: raised, or ended with an exit code. -/
inductive CheckerOutcome where
  | dockerError (error : String) (checkerStarted : Option Bool)
  | exited (exitCode : Option Int) (output : String)

/-- `CHECK_STARTED_OUTPUT`. -/
def checkStartedOutput : String :=
  "Проверка запущена. Ждем результат..."

variable (db : Db)

/-- The filter of the conditional update in `try_mark`. -/
def mayStartCheck : Bool :=
  !db.technicalPassed && decide (db.attempt.checkStatus ≠ .running)

/-- The row that the conditional update writes. -/
def markedRunning (attempt : TaskAttempt) (now : Timestamp) : TaskAttempt :=
  { attempt with
    attemptsCount := attempt.attemptsCount + 1
    status := .inProgress
    checkStatus := .running
    checkStartedAt := some now
    checkFinishedAt := none
    lastCheckOutput := checkStartedOutput }

/--
The conditional update of `try_mark_attempt_check_running` and the request
that follows it.  The clock is read twice: `now` for the row and `requestedAt`
for the ledger.
-/
def markAndRequest
    (opId : OperationInput) (generated : Uuid) (now requestedAt : Timestamp) :
    Except Failure (Db × Option Uuid) :=
  if mayStartCheck db then
    let marked := { db with attempt := markedRunning db.attempt now }
    match Ledger.requestCheck marked marked.attempt .service opId generated
        requestedAt with
    | .error failure => .error failure
    | .ok (requested, execution) => .ok (requested, some execution.runId)
  else
    .ok (db, none)

/--
`try_mark_attempt_check_running`.  The answer is the registered run, or `none`
when the check was not marked.
-/
def tryMarkAttemptCheckRunning
    (opId : OperationInput) (generated : Uuid) (now requestedAt : Timestamp) :
    Except Failure (Db × Option Uuid) :=
  match opId with
  | .malformed => .error .invalidOperationId
  | .absent => markAndRequest db opId generated now requestedAt
  | .given id =>
      if db.foreign.runs.contains id then .error .permissionDenied
      else if (db.execution? id).isSome then .ok (db, none)
      else markAndRequest db opId generated now requestedAt

/-- The failure class and reason of a nonzero exit code. -/
def classifyExit (exitCode : Int) : FailureClass × Reason :=
  if exitCode = 124 ∨ exitCode = 137 then
    (.timeout, .checkerTimeout)
  else if exitCode = 125 ∨ exitCode = 126 ∨ exitCode = 127 then
    (.infrastructure, .checkerLaunchError)
  else if exitCode = 1 then
    (.technical, .blank)
  else
    (.unknown, .checkerExitUnclassified)

/-- The row after a check that ended without a pass. -/
def checkFailed
    (attempt : TaskAttempt) (checkStatus : CheckStatus) (output : String)
    (now : Timestamp) : TaskAttempt :=
  { attempt with
    status := .failed
    lastCheckOutput := output
    checkStatus := checkStatus
    checkFinishedAt := some now }

variable (execution : Option Uuid)

/-- The final transaction after the Docker API raised. -/
def concludeDockerError (error : String)
    (checkerStarted : Option Bool) (now : Timestamp) : Except Failure Db :=
  match Ledger.checkLive db execution with
  | .error failure => .error failure
  | .ok _ =>
      let output :=
        "Не удалось запустить автопроверку из-за ошибки Docker API.\n\n" ++
          error
      let saved :=
        { db with attempt := checkFailed db.attempt .error output now }
      .ok (Ledger.finishCheck saved execution
          { Ledger.unknownFinish .dockerError now with
            failureClass := .infrastructure
            checkerStarted := checkerStarted })

/-- The final transaction after the checker left no exit code. -/
def concludeExitCodeMissing
    (output : String) (now : Timestamp) : Except Failure Db :=
  match Ledger.checkLive db execution with
  | .error failure => .error failure
  | .ok _ =>
      let saved :=
        { db with attempt := checkFailed db.attempt .error output now }
      .ok (Ledger.finishCheck saved execution
          (Ledger.unknownFinish .exitCodeMissing now))

/-- Success leaves a credit attempt of a reviewed task open for its answer. -/
def awaitsAnswer : Bool :=
  db.task.requiresManualReview && db.identity.isCreditAttempt

/--
The row that a passed check saves.  The container columns come from the
in-memory copy while the answer is awaited, and are cleared otherwise.
-/
def checkPassed
    (copy : TaskAttempt) (output : String) (now : Timestamp) : TaskAttempt :=
  let passed :=
    { db.attempt with
      technicalPassedAt := some now
      checkStatus := .passed
      checkFinishedAt := some now
      lastCheckOutput := output }
  if awaitsAnswer db then
    { passed with
      status := .inProgress
      finishedAt := none
      containerId := copy.containerId
      containerName := copy.containerName
      shellCommand := copy.shellCommand
      terminalContainerName := copy.terminalContainerName
      terminalUrl := copy.terminalUrl
      terminalPort := copy.terminalPort }
  else
    { passed with
      status := .passed
      finishedAt := some now
      containerId := ""
      containerName := ""
      shellCommand := ""
      terminalContainerName := ""
      terminalUrl := ""
      terminalPort := none }

/-- The `finished` event of a passed check. -/
def passedFinish (checkRunId : Pk) (now : Timestamp) : CheckFinished where
  occurredAt := now
  result := .passed
  failureClass := .none
  reason := .blank
  checkerStarted := some true
  exitCode := some 0
  checkRunId := some checkRunId

/-- The final transaction after exit code zero. -/
def concludePassed (copy : TaskAttempt) (output : String)
    (now : Timestamp) : Except Failure Db :=
  match Ledger.checkLive db execution with
  | .error failure => .error failure
  | .ok _ =>
      let run : CheckRun :=
        { pk := db.serial
          result := .passed
          output := output
          exitCode := 0 }
      let saved :=
        { db with
          serial := db.serial + 1
          checkRuns := db.checkRuns ++ [run]
          attempt := checkPassed db copy output now }
      let finished :=
        Ledger.finishCheck saved execution (passedFinish run.pk now)
      if db.identity.isCreditAttempt ∧ db.task.queueSlug = "l1" then
        Ledger.publish finished (.sandboxTechnical run.pk)
      else
        .ok finished

/-- The `finished` event of a check with a nonzero exit code. -/
def failedFinish
    (checkRunId : Pk) (exitCode : Int) (now : Timestamp) : CheckFinished :=
  let ambiguous := exitCode ≠ 1
  { occurredAt := now
    result := if ambiguous then .unknown else .failed
    failureClass := (classifyExit exitCode).1
    reason := (classifyExit exitCode).2
    checkerStarted :=
      if exitCode = 124 ∨ ¬ ambiguous then some true else none
    exitCode := some exitCode
    checkRunId := some checkRunId }

/-- The final transaction after a nonzero exit code. -/
def concludeFailed
    (exitCode : Int) (output : String) (now : Timestamp) : Except Failure Db :=
  match Ledger.checkLive db execution with
  | .error failure => .error failure
  | .ok _ =>
      let run : CheckRun :=
        { pk := db.serial
          result := .failed
          output := output
          exitCode := exitCode }
      let saved :=
        { db with
          serial := db.serial + 1
          checkRuns := db.checkRuns ++ [run]
          attempt := checkFailed db.attempt .failed output now }
      .ok
        (Ledger.finishCheck saved execution (failedFinish run.pk exitCode now))

/-- The final transaction of `run_attempt_check`, by outcome. -/
def concludeCheck (copy : TaskAttempt)
    (outcome : CheckerOutcome) (now : Timestamp) : Except Failure Db :=
  match outcome with
  | .dockerError error checkerStarted =>
      concludeDockerError db execution error checkerStarted now
  | .exited none output => concludeExitCodeMissing db execution output now
  | .exited (some exitCode) output =>
      if exitCode = 0 then concludePassed db execution copy output now
      else concludeFailed db execution exitCode output now

/-- The `except` branch of the `checked` wrapper. -/
def closeRaisedCheck (runId : Uuid) (now : Timestamp) : Db :=
  Ledger.finishCheck db (some runId) (Ledger.unknownFinish .backgroundError now)

/-- `_mark_background_check_error`, called with the queued run. -/
def markBackgroundCheckError
    (runId : Uuid) (error : String) (now : Timestamp) : Db :=
  if db.technicalPassed ∨ db.attempt.checkStatus ≠ .running then
    db
  else if db.latestExecution.map TechnicalCheckExecution.runId ≠ some runId then
    db
  else
    let closed := Ledger.finishCheck db (some runId)
        (Ledger.unknownFinish .backgroundError now)
    { closed with
      attempt :=
        checkFailed closed.attempt .error
          ("Неожиданная ошибка фоновой автопроверки.\n\n" ++ error) now }

end TicketSandbox.Sandbox.Checks

namespace TicketSandbox.Sandbox.Views

/-!
# Request handlers

The handlers of `views.py` that act on an attempt.  A handler first reads the
attempt without a lock and decides on that copy, then commits one or more
transactions.  The read part and each transaction are separate definitions,
because other requests and workers run in between.
-/

/-- Whether the guards of `start_task` let the request through. -/
def startTaskAllowed (db : Db) (isAvailable : Bool) : Bool :=
  db.attempt.isCurrent && !db.technicalPassed &&
    !db.attempt.environmentStatus.isSpinning &&
    decide (db.attempt.containerName = "") &&
    isAvailable

/-- Whether the guards of `restart_task` let the request through. -/
def restartTaskAllowed (db : Db) (isAvailable : Bool) : Bool :=
  db.attempt.isCurrent && !db.technicalPassed &&
    !db.attempt.environmentStatus.isSpinning &&
    decide (db.attempt.checkStatus ≠ .running) &&
    isAvailable

/-- The guards of the environment request of either kind. -/
def environmentAllowed
    (kind : EnvironmentKind) (db : Db) (isAvailable : Bool) : Bool :=
  match kind with
  | .start => startTaskAllowed db isAvailable
  | .reset => restartTaskAllowed db isAvailable

/-- `TaskAttempt.can_edit_client_answer`. -/
def canEditClientAnswer (db : Db) : Bool :=
  db.task.requiresManualReview && db.identity.isCreditAttempt &&
    db.technicalPassed &&
    decide (db.attempt.status ≠ .onReview) &&
    decide (db.attempt.status ≠ .passed) &&
    (db.attempt.isCurrent ||
      decide (db.attempt.mentorDecision = .needsRevision))

/-- Where `check_task` leads after its first reads. -/
inductive CheckTaskRoute where
  | refused
  | answer
  | check

/-- The routing of `check_task`, up to its first transaction. -/
def checkTaskRoute (db : Db) (isAvailable : Bool) : CheckTaskRoute :=
  if db.task.observed then
    .refused
  else if ¬ canEditClientAnswer db ∧ ¬ db.attempt.isCurrent then
    .refused
  else if ¬ isAvailable then
    .refused
  else if db.attempt.status = .passed ∨ db.attempt.status = .onReview then
    .refused
  else if db.attempt.checkStatus = .running then
    .refused
  else if db.technicalPassed then
    if db.task.requiresManualReview then .answer else .refused
  else if db.attempt.environmentStatus.isSpinning then
    .refused
  else if db.attempt.environmentStatus = .error then
    .refused
  else if db.attempt.containerName = "" then
    .refused
  else
    .check

/-- The fields of an answer form. -/
structure AnswerPost where
  clientAnswer : Text
  traineeReport : Text
  operationId : OperationInput

/-- `check_task` finds a submission under the posted operation identity. -/
def priorSubmission (db : Db) (post : AnswerPost) : Bool :=
  match post.operationId with
  | .given op =>
      db.foreign.submissions.contains op ||
        db.submissions.any fun row => decide (row.operationId = op)
  | _ => false

/-- The status closes the answer to further edits. -/
def answerIsFixed (db : Db) : Bool :=
  decide (db.attempt.status = .onReview) || decide (db.attempt.status = .passed)

/-- The first transaction of the answer branch: keep the exact draft. -/
def saveDraft (db : Db) (post : AnswerPost) : Db × Bool :=
  if answerIsFixed db then
    (db, false)
  else
    ({ db with
        attempt :=
          { db.attempt with
            clientAnswer := post.clientAnswer
            traineeReport := post.traineeReport } },
      true)

/-- Both fields of the form carry text. -/
def isComplete (post : AnswerPost) : Bool :=
  !(strip post.clientAnswer).isEmpty && !(strip post.traineeReport).isEmpty

/-- `create_ai_review`, which the reviewer's settings may make raise. -/
def createAIReview
    (db : Db) (clientAnswer : Text) (available : Bool) : Except Failure Db :=
  if available then
    .ok
      { db with
        serial := db.serial + 1
        aiReviews :=
          db.aiReviews ++
            [{ pk := db.serial
               clientAnswer := clientAnswer
               mentorDecision := none
               mentorReviewedBy := none
               mentorReviewedAt := none }] }
  else
    .error .aiReviewerError

/-- The row that the second transaction of the answer branch saves. -/
def submitted (attempt : TaskAttempt) (post : AnswerPost)
    (now : Timestamp) : TaskAttempt :=
  { attempt with
    clientAnswer := strip post.clientAnswer
    traineeReport := strip post.traineeReport
    status := .onReview
    mentorDecision := .notReviewed
    mentorReviewedBy := none
    mentorReviewedAt := none
    mentorFeedbackSeenAt := some now }

/--
The second transaction of the answer branch.  The answer tells whether the
attempt went on review.
-/
def submitForReview
    (db : Db) (copy : TaskAttempt) (post : AnswerPost) (aiAvailable : Bool)
    (generated : Uuid) (now : Timestamp) : Except Failure (Db × Bool) :=
  if answerIsFixed db then
    .ok (db, false)
  else
    match Ledger.submitAnswer db copy post.clientAnswer post.traineeReport
        post.operationId generated now with
    | .error failure => .error failure
    | .ok (recorded, _, _) =>
        let reviewed : Except Failure Db :=
          if db.task.aiReviewContext then
            createAIReview recorded (strip post.clientAnswer) aiAvailable
          else
            .ok recorded
        match reviewed with
        | .error failure => .error failure
        | .ok saved =>
            .ok
              ({ saved with attempt := submitted saved.attempt post now }, true)

/--
The fields of a mentor's form.  A decision that is missing or not among the
choices arrives as `none`, and a submission identity that is no primary key
is one that no row has.
-/
structure MentorPost where
  actor : Pk
  decision : Option MentorDecision
  feedback : Text
  submissionId : Option Pk
  operationId : OperationInput

/-- The decision that `save_mentor_feedback` works with. -/
def MentorPost.mentorDecision (post : MentorPost) : MentorDecision :=
  post.decision.getD .notReviewed

/-- What `save_mentor_feedback` answers. -/
inductive FeedbackReply where
  | noAccess
  | extraAttempt
  | invalidOperation
  | versionChanged
  | alreadySaved
  | saved

/-- A review under the posted operation identity exists already. -/
def duplicateReview (db : Db) (post : MentorPost) : Bool :=
  match post.operationId with
  | .given op =>
      db.foreign.reviews.contains op ||
        db.reviews.any fun event => decide (event.operationId = op)
  | _ => false

/-- The row that `save_mentor_feedback` saves. -/
def reviewed (attempt : TaskAttempt) (post : MentorPost)
    (now : Timestamp) : TaskAttempt :=
  let commented :=
    { attempt with
      mentorFeedback := strip post.feedback
      mentorDecision := post.mentorDecision
      mentorReviewedBy := some post.actor
      mentorReviewedAt := some now
      mentorFeedbackSeenAt := none }
  match post.mentorDecision with
  | .approved =>
      { commented with status := .passed, finishedAt := some now }
  | .needsRevision =>
      { commented with status := .failed, finishedAt := none }
  | .notReviewed => commented

/-- A decision is copied to the newest review of the same answer text. -/
def copyDecision
    (reviews : List AIReview) (clientAnswer : Text) (post : MentorPost)
    (now : Timestamp) : List AIReview :=
  let matching :=
    reviews.filter fun row => decide (row.clientAnswer = clientAnswer)
  match post.mentorDecision, matching.getLast? with
  | .notReviewed, _ => reviews
  | _, none => reviews
  | decision, some newest =>
      Rows.modify AIReview.pk newest.pk (fun row =>
          { row with
            mentorDecision := some decision
            mentorReviewedBy := some post.actor
            mentorReviewedAt := some now })
        reviews

/-- `save_mentor_feedback`, one transaction under the row lock. -/
def saveMentorFeedback (db : Db) (post : MentorPost) (generated : Uuid)
    (now : Timestamp) : Except Failure (Db × FeedbackReply) :=
  if post.operationId = .malformed then
    .ok (db, .invalidOperation)
  else if ¬ db.isStaff post.actor then
    .ok (db, .noAccess)
  else if db.identity.isExtraAttempt then
    .ok (db, .extraAttempt)
  else
    match Ledger.reviewAnswer db db.attempt post.actor post.mentorDecision
        (strip post.feedback) post.submissionId post.operationId generated
        now with
    | .error failure =>
        if failure.isValidationError then .ok (db, .versionChanged)
        else .error failure
    | .ok (recorded, _) =>
        if duplicateReview db post then
          .ok (recorded, .alreadySaved)
        else
          .ok ({ recorded with
                attempt := reviewed recorded.attempt post now
                aiReviews :=
                  copyDecision recorded.aiReviews
                    recorded.attempt.clientAnswer post now },
              .saved)

end TicketSandbox.Sandbox.Views
