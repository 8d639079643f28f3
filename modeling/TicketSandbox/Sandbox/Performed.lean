import TicketSandbox.Sandbox.AnswerFacts
import TicketSandbox.Sandbox.EnvironmentFacts
import TicketSandbox.Sandbox.Transactions

namespace TicketSandbox.Sandbox.Checks

/-!
# What the check transactions do

One lemma per transaction of the check worker, in the manner of the ledger
facts: what a successful call can have done, and under which condition.
-/

/-- What marking a check and registering it can have done. -/
inductive Marked
    (db : Db) (now requestedAt : Timestamp) : Db → Option Uuid → Prop where
  | refused : Marked db now requestedAt db none
  | requested (id : Uuid) : mayStartCheck db = true →
      Ledger.runIdTaken db id = false →
      Marked db now requestedAt
        { db with
          attempt := markedRunning db.attempt now
          checks :=
            db.checks ++ [Ledger.newExecution db .service id requestedAt] }
        (some id)

variable {db next : Db} {opId : OperationInput} {generated : Uuid}
  {now requestedAt : Timestamp} {run : Option Uuid}

theorem markAndRequest_ok (covered : db.coverage.isSome = true) (accepted :
      markAndRequest db opId generated now requestedAt = .ok (next, run)) :
    Marked db now requestedAt next run := by
  simp only [markAndRequest] at accepted
  split at accepted
  · rename_i may
    split at accepted
    · simp at accepted
    · rename_i requested execution result
      have markedCovered :
          ({ db with attempt := markedRunning db.attempt now } : Db
            ).coverage.isSome = true := covered
      obtain ⟨id, free, sameExecution, sameDb⟩ :=
        Ledger.requestCheck_ok markedCovered result
      simp only [Except.ok.injEq, Prod.mk.injEq] at accepted
      obtain ⟨rfl, rfl⟩ := accepted
      subst sameExecution
      subst sameDb
      exact .requested id may free
  · simp only [Except.ok.injEq, Prod.mk.injEq] at accepted
    obtain ⟨rfl, rfl⟩ := accepted
    exact .refused

theorem tryMarkAttemptCheckRunning_ok
    (covered : db.coverage.isSome = true) (accepted :
      tryMarkAttemptCheckRunning db opId generated now requestedAt =
        .ok (next, run)) :
    Marked db now requestedAt next run := by
  cases opId with
  | malformed => simp [tryMarkAttemptCheckRunning] at accepted
  | absent => exact markAndRequest_ok covered accepted
  | given id =>
      simp only [tryMarkAttemptCheckRunning] at accepted
      split at accepted
      · simp at accepted
      split at accepted
      · simp only [Except.ok.injEq, Prod.mk.injEq] at accepted
        obtain ⟨rfl, rfl⟩ := accepted
        exact .refused
      · exact markAndRequest_ok covered accepted

/-- The ways the final transaction of a registered check can end. -/
inductive Concluded (db : Db) (runId : Uuid) (copy : TaskAttempt)
    (now : Timestamp) : Db → Prop where
  | unknown (output : String) (finish : CheckFinished) :
      finish.result = .unknown →
      finish.checkRunId = none →
      Concluded db runId copy now
        { db with
          attempt := checkFailed db.attempt .error output now
          checks :=
            Rows.modify TechnicalCheckExecution.runId runId
              (Ledger.closeExecution finish) db.checks }
  | passed (output : String) (events : List SourceEvent) :
      events = db.sourceEvents ∨
        events = db.sourceEvents ++ [.sandboxTechnical db.serial] →
      Concluded db runId copy now
        { db with
          serial := db.serial + 1
          checkRuns :=
            db.checkRuns ++
              [{ pk := db.serial
                 result := .passed
                 output := output
                 exitCode := 0 }]
          attempt := checkPassed db copy output now
          sourceEvents := events
          checks :=
            Rows.modify TechnicalCheckExecution.runId runId
              (Ledger.closeExecution (passedFinish db.serial now))
              db.checks }
  | failed (exitCode : Int) (output : String) : exitCode ≠ 0 →
      Concluded db runId copy now
        { db with
          serial := db.serial + 1
          checkRuns :=
            db.checkRuns ++
              [{ pk := db.serial
                 result := .failed
                 output := output
                 exitCode := exitCode }]
          attempt := checkFailed db.attempt .failed output now
          checks :=
            Rows.modify TechnicalCheckExecution.runId runId
              (Ledger.closeExecution (failedFinish db.serial exitCode now))
              db.checks }

theorem concludeCheck_ok
    {runId : Uuid} {copy : TaskAttempt} {outcome : CheckerOutcome}
    (accepted : concludeCheck db (some runId) copy outcome now = .ok next) :
    Ledger.checkLive db (some runId) = .ok () ∧
      Concluded db runId copy now next := by
  cases outcome with
  | dockerError error checkerStarted =>
      simp only [concludeCheck, concludeDockerError] at accepted
      split at accepted
      · simp at accepted
      · rename_i live
        simp only [Except.ok.injEq] at accepted
        subst accepted
        exact ⟨live, .unknown _ _ rfl rfl⟩
  | exited exitCode output =>
      cases exitCode with
      | none =>
          simp only [concludeCheck, concludeExitCodeMissing] at accepted
          split at accepted
          · simp at accepted
          · rename_i live
            simp only [Except.ok.injEq] at accepted
            subst accepted
            exact ⟨live, .unknown _ _ rfl rfl⟩
      | some exitCode =>
          simp only [concludeCheck] at accepted
          split at accepted
          · simp only [concludePassed] at accepted
            split at accepted
            · simp at accepted
            · rename_i live
              split at accepted
              · obtain ⟨_, rfl⟩ | ⟨_, rfl⟩ := Ledger.publish_ok accepted
                · exact ⟨live, .passed output _ (.inl rfl)⟩
                · exact ⟨live, .passed output _ (.inr rfl)⟩
              · simp only [Except.ok.injEq] at accepted
                subst accepted
                exact ⟨live, .passed output _ (.inl rfl)⟩
          · rename_i nonzero
            simp only [concludeFailed] at accepted
            split at accepted
            · simp at accepted
            · rename_i live
              simp only [Except.ok.injEq] at accepted
              subst accepted
              exact ⟨live, .failed exitCode output nonzero⟩

/-- What reporting a background error can have done. -/
inductive ErrorMarked
    (db : Db) (runId : Uuid) (now : Timestamp) : Db → Prop where
  | ignored : ErrorMarked db runId now db
  | reported (output : String) : db.attempt.checkStatus = .running →
      db.technicalPassed = false →
      db.latestExecution.map TechnicalCheckExecution.runId = some runId →
      ErrorMarked db runId now
        { db with
          attempt := checkFailed db.attempt .error output now
          checks :=
            Rows.modify TechnicalCheckExecution.runId runId
              (Ledger.closeExecution
                (Ledger.unknownFinish .backgroundError now))
              db.checks }

theorem markBackgroundCheckError_cases
    (db : Db) (runId : Uuid) (error : String) (now : Timestamp) :
    ErrorMarked db runId now (markBackgroundCheckError db runId error now) := by
  simp only [markBackgroundCheckError]
  split
  · exact .ignored
  · rename_i active
    split
    · exact .ignored
    · rename_i isLatest
      simp only [ne_eq, not_or, Bool.not_eq_true, Decidable.not_not]
        at active isLatest
      exact .reported _ active.2 active.1 isLatest

end TicketSandbox.Sandbox.Checks

namespace TicketSandbox.Sandbox

/-!
# What a committed transaction did

The inversion of `Db.perform`: one constructor for each transaction, carrying
what its function can have done.  Every invariant of the database is proved by
cases on this relation or on a coarser one derived from it.
-/

/-- Operation identities are unique among the environment operations. -/
def Db.UniqueOperations (db : Db) : Prop :=
  (db.environment.map EnvironmentOperation.operationId).Nodup

/-- Run identities are unique among the executions. -/
def Db.UniqueRuns (db : Db) : Prop :=
  (db.checks.map TechnicalCheckExecution.runId).Nodup

/--
What a worker knows when it commits: the execution it concludes, or the
operation it launched, was begun, and nobody else restarts the environment
before it is closed.
-/
def Transaction.Grounded (db : Db) : Transaction → Prop
  | .concludeCheck execution _ _ _ =>
      ∃ row ∈ db.checks, execution = some row.runId ∧ row.started.isSome = true
  | .saveLaunched kind copy operation _ _ =>
      ∃ row ∈ db.environment, row.operationId = operation ∧ row.kind = kind ∧
          row.started.isSome = true ∧
          (row.finished = none → copy.restartCount = db.attempt.restartCount)
  | _ => True

/-- A committed transaction and what it did. -/
inductive Performed (db : Db) : Transaction → Db → Reply → Prop where
  | tryMarkCheck {opId : OperationInput} {generated : Uuid}
      {now requestedAt : Timestamp} {next : Db} {run : Option Uuid} :
      Checks.Marked db now requestedAt next run →
      Performed db (.tryMarkCheck opId generated now requestedAt) next
        (.marked run)
  | recordDuplicate {runId : Uuid} {now : Timestamp} :
      Performed db (.recordDuplicate runId now)
        (Ledger.recordDuplicateCheck db runId now) .done
  | beginCheck {runId : Uuid} {now : Timestamp} {next : Db} {started : Bool} :
      Ledger.CheckBegun db runId now next started →
      Performed db (.beginCheck runId now) next (.begun started)
  | concludeCheck {row : TechnicalCheckExecution} {copy : TaskAttempt}
      {outcome : Checks.CheckerOutcome} {now : Timestamp} {next : Db} :
      row ∈ db.checks →
      row.started.isSome = true →
      row.finished = none →
      Checks.Concluded db row.runId copy now next →
      Performed db (.concludeCheck (some row.runId) copy outcome now) next .done
  | closeRaisedCheck {runId : Uuid} {now : Timestamp} :
      Performed db (.closeRaisedCheck runId now)
        (Checks.closeRaisedCheck db runId now) .done
  | markCheckError {runId : Uuid} {error : String} {now : Timestamp}
      {next : Db} :
      Checks.ErrorMarked db runId now next →
      Performed db (.markCheckError runId error now) next .done
  | tryMarkEnvironment {kind : EnvironmentKind} {copy : TaskAttempt}
      {actor : Option Pk} {origin : Origin} {opId : OperationInput}
      {generated : Uuid} {requestedAt now : Timestamp} {next : Db}
      {operation : Option Uuid} :
      Environments.Requested kind db actor origin opId requestedAt now next →
      Performed db
        (.tryMarkEnvironment kind copy actor origin opId generated requestedAt
          now) next (.marked operation)
  | beginEnvironment {kind : EnvironmentKind} {copy : TaskAttempt}
      {operation generated : Uuid} {now : Timestamp} {next : Db}
      {begun : Bool} :
      Environments.Begun db kind operation now next begun →
      Performed db (.beginEnvironment kind copy operation generated now)
        next (.begun begun)
  | saveLaunched {kind : EnvironmentKind} {copy : TaskAttempt}
      {launch : Environments.Launch} {now : Timestamp}
      {row : EnvironmentOperation} :
      row ∈ db.environment →
      row.kind = kind →
      row.started.isSome = true →
      row.finished = none →
      copy.restartCount = db.attempt.restartCount →
      Performed db (.saveLaunched kind copy row.operationId launch now)
        { db with
          attempt := Environments.launched kind db.attempt copy launch now
          environment :=
            Rows.modify EnvironmentOperation.operationId row.operationId
              (Ledger.closeOperation (Environments.launchedFinish now))
              db.environment }
        .done
  | closeRaisedEnvironment {operation : Uuid} {now : Timestamp} :
      Performed db (.closeRaisedEnvironment operation now)
        (Environments.closeRaisedEnvironment db operation now) .done
  | markEnvironmentError {kind : EnvironmentKind} {copy : TaskAttempt}
      {error : String} {generated : Uuid} {now : Timestamp} {next : Db} :
      Environments.Failed kind db error now next →
      Performed db (.markEnvironmentError kind copy error generated now)
        next .done
  | dispatchFailed {kind : EnvironmentKind} {copy : TaskAttempt}
      {operation generated : Uuid} {error : String} {now : Timestamp}
      {next : Db} :
      Environments.Failed kind (Ledger.environmentFinished db operation
          (Ledger.interruptedFinish .dispatchError now))
        error now next →
      Performed db
        (.dispatchFailed kind copy operation error generated now) next .done
  | interrupt {reason : Reason} {now : Timestamp} :
      Performed db (.interrupt reason now) (Ledger.interrupt db reason now)
        .done
  | markStuck {kind : DetectStuckAttempts.StuckKind} {copy : TaskAttempt}
      {now closedAt : Timestamp} :
      Performed db (.markStuck kind copy now closedAt)
        (DetectStuckAttempts.markStuckAttempt kind db copy now closedAt)
        .done
  | submitAnswer {copy : TaskAttempt} {clientAnswer traineeReport : Text}
      {opId : OperationInput} {generated : Uuid} {now : Timestamp} {next : Db}
      {submission : AnswerSubmission} {created : Bool} :
      Ledger.Submitted db clientAnswer traineeReport opId generated now next
        submission created →
      Performed db
        (.submitAnswer copy clientAnswer traineeReport opId generated now)
        next (.decided created)
  | reviewAnswer {copy : TaskAttempt} {actor : Pk} {decision : MentorDecision}
      {comment : Text} {submissionId : Option Pk} {opId : OperationInput}
      {generated : Uuid} {now : Timestamp} {next : Db}
      {event : Option AnswerReviewEvent} :
      Ledger.Reviewed db actor decision comment submissionId opId generated
        now next event →
      Performed db (.reviewAnswer copy actor decision comment submissionId opId
          generated now) next .done
  | saveDraft {post : Views.AnswerPost} :
      Performed db (.saveDraft post) (Views.saveDraft db post).1
        (.decided (Views.saveDraft db post).2)
  | submitForReview {copy : TaskAttempt} {post : Views.AnswerPost}
      {aiAvailable : Bool} {generated : Uuid} {now : Timestamp} {next : Db}
      {accepted : Bool} :
      Views.ForReview db post generated now next accepted →
      Performed db (.submitForReview copy post aiAvailable generated now)
        next (.decided accepted)
  | cleanup {copy : TaskAttempt} {terminalRemoved containerRemoved : Bool} :
      Performed db (.cleanup copy terminalRemoved containerRemoved)
        (Environments.cleanupAttemptEnvironment db copy terminalRemoved
          containerRemoved)
        .done
  | saveMentorFeedback {post : Views.MentorPost} {generated : Uuid}
      {now : Timestamp} {next : Db} {reply : Views.FeedbackReply} :
      Views.Feedback db post generated now next reply →
      Performed db (.saveMentorFeedback post generated now) next
        (.feedback reply)

/-- A mapped result is good exactly when the result is. -/
private theorem map_ok
    {α β : Type} {result : Except Failure α} {reply : α → β} {value : β}
    (accepted : result.map reply = .ok value) :
    ∃ inner, result = .ok inner ∧ reply inner = value := by
  cases result with
  | error failure => simp [Except.map] at accepted
  | ok inner => exact ⟨inner, rfl, by simpa [Except.map] using accepted⟩

/-- Whatever a transaction does is one of the known changes. -/
theorem Db.perform_performed
    {db next : Db} {transaction : Transaction} {reply : Reply}
    (covered : db.coverage.isSome = true) (uniqueRuns : db.UniqueRuns)
    (uniqueOperations : db.UniqueOperations)
    (grounded : transaction.Grounded db)
    (accepted : db.perform transaction = .ok (next, reply)) :
    Performed db transaction next reply := by
  cases transaction with
  | tryMarkCheck opId generated now requestedAt =>
      obtain ⟨⟨_, _⟩, ok, same⟩ := map_ok accepted
      cases same
      exact .tryMarkCheck (Checks.tryMarkAttemptCheckRunning_ok covered ok)
  | recordDuplicate runId now =>
      cases accepted
      exact .recordDuplicate
  | beginCheck runId now =>
      obtain ⟨⟨_, _, _⟩, ok, same⟩ := map_ok accepted
      cases same
      exact .beginCheck (Ledger.beginCheck_ok ok)
  | concludeCheck execution copy outcome now =>
      obtain ⟨row, member, rfl, started⟩ := grounded
      obtain ⟨_, ok, same⟩ := map_ok accepted
      cases same
      obtain ⟨live, concluded⟩ := Checks.concludeCheck_ok ok
      exact .concludeCheck member started
        (Ledger.checkLive_ok live (db.execution?_of_mem uniqueRuns member))
        concluded
  | closeRaisedCheck runId now =>
      cases accepted
      exact .closeRaisedCheck
  | markCheckError runId error now =>
      cases accepted
      exact .markCheckError
        (Checks.markBackgroundCheckError_cases db runId error now)
  | tryMarkEnvironment kind copy actor origin opId generated requestedAt now =>
      obtain ⟨⟨_, _⟩, ok, same⟩ := map_ok accepted
      cases same
      exact .tryMarkEnvironment (Environments.tryMarkEnvironment_ok covered ok)
  | beginEnvironment kind copy operation generated now =>
      obtain ⟨⟨_, _, _⟩, ok, same⟩ := map_ok accepted
      cases same
      exact .beginEnvironment
        (Environments.beginEnvironment_ok covered uniqueOperations ok)
  | saveLaunched kind copy operation launch now =>
      obtain ⟨row, member, rfl, sameKind, started, counted⟩ := grounded
      obtain ⟨_, ok, same⟩ := map_ok accepted
      cases same
      obtain ⟨live, rfl⟩ := Environments.saveLaunched_ok ok
      have unfinished : row.finished = none := Ledger.environmentLive_ok live
          (db.operation?_of_mem uniqueOperations member)
      exact .saveLaunched member sameKind started unfinished
        (counted unfinished)
  | closeRaisedEnvironment operation now =>
      cases accepted
      exact .closeRaisedEnvironment
  | markEnvironmentError kind copy error generated now =>
      obtain ⟨_, ok, same⟩ := map_ok accepted
      cases same
      exact .markEnvironmentError
        (Environments.markEnvironmentError_ok covered ok)
  | dispatchFailed kind copy operation error generated now =>
      obtain ⟨_, ok, same⟩ := map_ok accepted
      cases same
      have stillCovered : (Ledger.environmentFinished db operation
            (Ledger.interruptedFinish .dispatchError now)
              ).coverage.isSome = true := covered
      exact .dispatchFailed
        (Environments.markEnvironmentError_ok stillCovered ok)
  | interrupt reason now =>
      cases accepted
      exact .interrupt
  | markStuck kind copy now closedAt =>
      cases accepted
      exact .markStuck
  | submitAnswer copy clientAnswer traineeReport opId generated now =>
      obtain ⟨⟨_, _, _⟩, ok, same⟩ := map_ok accepted
      cases same
      exact .submitAnswer (Ledger.submitAnswer_ok covered ok)
  | reviewAnswer copy actor decision comment submissionId opId generated now =>
      obtain ⟨⟨_, _⟩, ok, same⟩ := map_ok accepted
      cases same
      exact .reviewAnswer (Ledger.reviewAnswer_ok covered ok)
  | saveDraft post =>
      cases accepted
      exact .saveDraft
  | submitForReview copy post aiAvailable generated now =>
      obtain ⟨⟨_, _⟩, ok, same⟩ := map_ok accepted
      cases same
      exact .submitForReview (Views.submitForReview_ok covered ok)
  | cleanup copy terminalRemoved containerRemoved =>
      cases accepted
      exact .cleanup
  | saveMentorFeedback post generated now =>
      obtain ⟨⟨_, _⟩, ok, same⟩ := map_ok accepted
      cases same
      exact .saveMentorFeedback (Views.saveMentorFeedback_ok covered ok)

end TicketSandbox.Sandbox
