import TicketSandbox.Sandbox.Performed

namespace TicketSandbox.Sandbox

/-!
# What a transaction does to the checks

Most transactions leave the executions, the recorded runs and the counters of
an attempt alone.  `CheckStep` lists the few ways in which a transaction can
touch them.
-/

/--
The transaction resets `check_status` to idle: a restart that wins the
attempt, or one whose operation is still open when it succeeds.
-/
def Transaction.resetsCheck (db : Db) : Transaction → Bool
  | .tryMarkEnvironment .reset _ actor origin opId _ _ _ =>
      Ledger.mayRegister db actor origin opId &&
        !db.attempt.environmentStatus.isSpinning
  | .saveLaunched .reset _ operation _ _ =>
      db.openEnvironment.any fun row => decide (row.operationId = operation)
  | _ => false

/-- The check columns of an attempt, apart from its check status. -/
structure SameCheckFacts (db next : Db) : Prop where
  runs : next.checkRuns = db.checkRuns
  count : next.attempt.attemptsCount = db.attempt.attemptsCount
  passedAt : next.attempt.technicalPassedAt = db.attempt.technicalPassedAt
  serial : db.serial ≤ next.serial

/-- A change of an execution that leaves its identity and finish alone. -/
structure Touched (old new : TechnicalCheckExecution) : Prop where
  runId : new.runId = old.runId
  ordinal : new.ordinal = old.ordinal
  requestedAt : new.requestedAt = old.requestedAt
  finished : new.finished = old.finished
  started : ∀ start, old.started = some start → new.started = some start

/-- A passed or failed run, and the execution that it finishes. -/
structure Ran (db next : Db) (row : TechnicalCheckExecution) (run : CheckRun)
    (finish : CheckFinished) : Prop where
  member : row ∈ db.checks
  started : row.started.isSome = true
  unfinished : row.finished = none
  checks : next.checks = Rows.modify TechnicalCheckExecution.runId row.runId
        (Ledger.closeExecution finish) db.checks
  runs : next.checkRuns = db.checkRuns ++ [run]
  runPk : run.pk = db.serial
  serial : next.serial = db.serial + 1
  recorded : finish.checkRunId = some run.pk
  exitCode : finish.exitCode = some run.exitCode
  result : run.result = if finish.result = .passed then .passed else .failed
  count : next.attempt.attemptsCount = db.attempt.attemptsCount
  passedAt :
    (finish.result = .passed ∧ next.attempt.technicalPassedAt.isSome = true) ∨
      next.attempt.technicalPassedAt = db.attempt.technicalPassedAt
  status :
    next.attempt.checkStatus = .passed ∨ next.attempt.checkStatus = .failed

/-- What one transaction can do to the checks of an attempt. -/
inductive CheckStep (db : Db) (transaction : Transaction) (next : Db) :
    Prop where
  | kept (same : SameCheckFacts db next) (checks : next.checks = db.checks)
      (status : next.attempt.checkStatus = db.attempt.checkStatus)
  | idled (same : SameCheckFacts db next) (checks : next.checks = db.checks)
      (restart : transaction.resetsCheck db = true)
  | requested (id : Uuid) (now : Timestamp)
      (may : Checks.mayStartCheck db = true)
      (free : Ledger.runIdTaken db id = false)
      (checks :
        next.checks = db.checks ++ [Ledger.newExecution db .service id now])
      (runs : next.checkRuns = db.checkRuns)
      (count : next.attempt.attemptsCount = db.attempt.attemptsCount + 1)
      (passedAt : next.attempt.technicalPassedAt = db.attempt.technicalPassedAt)
      (serial : next.serial = db.serial)
      (status : next.attempt.checkStatus = .running)
  | touched (runId : Uuid)
      (change : TechnicalCheckExecution → TechnicalCheckExecution)
      (harmless : ∀ row ∈ db.checks, row.runId = runId →
        Touched row (change row))
      (same : SameCheckFacts db next)
      (checks : next.checks =
          Rows.modify TechnicalCheckExecution.runId runId change db.checks)
      (status : next.attempt.checkStatus = db.attempt.checkStatus)
  | closed (runId : Uuid) (finish : CheckFinished)
      (withoutRun : finish.checkRunId = none)
      (unknown : finish.result = .unknown)
      (honest : finish.checkerStarted = some true →
        ∀ row ∈ db.checks, row.runId = runId → row.started.isSome = true)
      (same : SameCheckFacts db next)
      (checks : next.checks = Rows.modify TechnicalCheckExecution.runId runId
            (Ledger.closeExecution finish) db.checks)
      (status : next.attempt.checkStatus = db.attempt.checkStatus ∨
          ((∃ row ∈ db.checks, row.runId = runId ∧ row.finished = none) ∨
            db.latestExecution.map TechnicalCheckExecution.runId = some runId))
  | interrupted (reason : Reason) (now : Timestamp)
      (same : SameCheckFacts db next)
      (checks : next.checks = db.checks.map
            (Ledger.closeExecution (Ledger.unknownFinish reason now)))
  | ran (row : TechnicalCheckExecution) (run : CheckRun)
      (finish : CheckFinished) (facts : Ran db next row run finish)

/-- An update of the attempt that leaves the check columns alone. -/
structure SameCheckColumns (old new : TaskAttempt) : Prop where
  count : new.attemptsCount = old.attemptsCount
  passedAt : new.technicalPassedAt = old.technicalPassedAt
  status : new.checkStatus = old.checkStatus

variable {db next : Db} {transaction : Transaction} {now : Timestamp}

/-- The columns of `SameCheckFacts`. -/
def Db.checkFacts (db : Db) : List CheckRun × Nat × Option Timestamp × Pk :=
  (db.checkRuns, db.attempt.attemptsCount, db.attempt.technicalPassedAt,
    db.serial)

theorem SameCheckFacts.ofEq
    (same : next.checkFacts = db.checkFacts) : SameCheckFacts db next := by
  simp only [Db.checkFacts, Prod.mk.injEq] at same
  obtain ⟨runs, count, passedAt, serial⟩ := same
  exact ⟨runs, count, passedAt, Nat.le_of_eq serial.symm⟩

/-- Nothing of the checks has changed. -/
theorem CheckStep.same (facts : next.checkFacts = db.checkFacts)
    (checks : (next.checks, next.attempt.checkStatus) =
      (db.checks, db.attempt.checkStatus)) :
    CheckStep db transaction next :=
  .kept (.ofEq facts) (Prod.mk.inj checks).1 (Prod.mk.inj checks).2

theorem CheckStep.ofColumns (columns : SameCheckColumns db.attempt next.attempt)
    (checks : next.checks = db.checks) (runs : next.checkRuns = db.checkRuns)
    (serial : db.serial ≤ next.serial) :
    CheckStep db transaction next :=
  .kept ⟨runs, columns.count, columns.passedAt, serial⟩ checks columns.status

theorem Environments.cleanup_checkColumns
    (db : Db) (copy : TaskAttempt) (terminalRemoved containerRemoved : Bool) :
    SameCheckColumns db.attempt
      (cleanupAttemptEnvironment db copy terminalRemoved
        containerRemoved).attempt := by
  constructor <;> simp only [cleanupAttemptEnvironment] <;> split_ifs <;> rfl

theorem Views.reviewed_checkColumns
    (attempt : TaskAttempt) (post : Views.MentorPost) (now : Timestamp) :
    SameCheckColumns attempt (Views.reviewed attempt post now) := by
  constructor <;> simp only [Views.reviewed] <;> split <;> rfl

namespace Ledger

variable {opId : OperationInput} {generated : Uuid}

theorem Submitted.sameChecks
    {clientAnswer traineeReport : Text} {submission : AnswerSubmission}
    {created : Bool} (submits :
      Submitted db clientAnswer traineeReport opId generated now next
        submission created) :
    next.attempt = db.attempt ∧ next.checks = db.checks ∧
      next.checkRuns = db.checkRuns ∧ db.serial ≤ next.serial := by
  cases submits with
  | repeated _ _ _ => exact ⟨rfl, rfl, rfl, Nat.le_refl _⟩
  | created _ _ _ _ => exact ⟨rfl, rfl, rfl, Nat.le_succ _⟩

theorem Reviewed.sameChecks
    {actor : Pk} {decision : MentorDecision} {comment : Text}
    {submissionId : Option Pk} {event : Option AnswerReviewEvent} (reviews :
      Reviewed db actor decision comment submissionId opId generated now
        next event) :
    next.attempt = db.attempt ∧ next.checks = db.checks ∧
      next.checkRuns = db.checkRuns ∧ db.serial ≤ next.serial := by
  cases reviews with
  | withoutSubmission _ _ => exact ⟨rfl, rfl, rfl, Nat.le_refl _⟩
  | replayed _ _ _ _ _ => exact ⟨rfl, rfl, rfl, Nat.le_refl _⟩
  | unchanged _ _ _ _ _ _ => exact ⟨rfl, rfl, rfl, Nat.le_refl _⟩
  | recorded _ _ _ _ _ _ _ _ => exact ⟨rfl, rfl, rfl, Nat.le_succ _⟩

theorem touched_startExecution
    {row : TechnicalCheckExecution} (unstarted : row.started = none)
    (now : Timestamp) :
    Touched row (startExecution now row) :=
  ⟨rfl, rfl, rfl, rfl, fun start began => by
    rw [unstarted] at began
    cases began⟩

theorem touched_noteDuplicate
    (now : Timestamp) (row : TechnicalCheckExecution) :
    Touched row (noteDuplicate now row) := by
  simp only [noteDuplicate]
  split <;> exact ⟨rfl, rfl, rfl, rfl, fun _ => id⟩

end Ledger

theorem Checks.Concluded.checkStep {row : TechnicalCheckExecution}
    {copy : TaskAttempt} (uniqueRuns : db.UniqueRuns) (member : row ∈ db.checks)
    (started : row.started.isSome = true) (unfinished : row.finished = none)
    (concluded : Checks.Concluded db row.runId copy now next) :
    CheckStep db transaction next := by
  cases concluded with
  | unknown output finish isUnknown withoutRun =>
      refine .closed row.runId finish withoutRun isUnknown ?_ (.ofEq rfl) rfl
        (.inr (.inl ⟨row, member, rfl, unfinished⟩))
      intro _ other otherMember sameRun
      rw [Rows.eq_of_key uniqueRuns otherMember member sameRun]
      exact started
  | passed output events _ =>
      refine .ran row _ (Checks.passedFinish db.serial now)
        { member := member
          started := started
          unfinished := unfinished
          checks := rfl
          runs := rfl
          runPk := rfl
          serial := rfl
          recorded := rfl
          exitCode := rfl
          result := rfl
          count := ?_
          passedAt := .inl ⟨rfl, ?_⟩
          status := .inl ?_ } <;>
        simp only [Checks.checkPassed] <;>
        split <;>
        rfl
  | failed exitCode output nonzero =>
      refine .ran row _ (Checks.failedFinish db.serial exitCode now)
        { member := member
          started := started
          unfinished := unfinished
          checks := rfl
          runs := rfl
          runPk := rfl
          serial := rfl
          recorded := rfl
          exitCode := rfl
          result := ?_
          count := rfl
          passedAt := .inr rfl
          status := .inr rfl }
      simp only [Checks.failedFinish]
      split <;> simp

theorem Environments.Failed.checkStep {kind : EnvironmentKind} {error : String}
    (failed : Environments.Failed kind db error now next) :
    CheckStep db transaction next := by
  cases failed with
  | ignored _ => exact .same rfl rfl
  | failed _ =>
      exact .interrupted .environmentError now (.ofEq rfl) rfl
  | legacy id _ _ =>
      exact .interrupted .environmentError now (.ofEq rfl) rfl

/-- What any transaction does to the checks. -/
theorem Performed.checkStep {reply : Reply} (uniqueRuns : db.UniqueRuns)
    (performed : Performed db transaction next reply) :
    CheckStep db transaction next := by
  cases performed with
  | tryMarkCheck marked =>
      cases marked with
      | refused => exact .same rfl rfl
      | requested id may free =>
          exact .requested id _ may free rfl rfl rfl rfl rfl rfl
  | recordDuplicate =>
      exact .touched _ _ (fun row _ _ => Ledger.touched_noteDuplicate _ row)
        (.ofEq rfl) rfl rfl
  | beginCheck begun =>
      cases begun with
      | duplicate =>
          exact .touched _ _ (fun row _ _ => Ledger.touched_noteDuplicate _ row)
            (.ofEq rfl) rfl rfl
      | started member sameRun untouched =>
          refine .touched _ _ (fun row isRow same => ?_) (.ofEq rfl) rfl rfl
          obtain rfl :=
            Rows.eq_of_key uniqueRuns isRow member (same.trans sameRun.symm)
          refine Ledger.touched_startExecution ?_ _
          simp only [Ledger.hasEvents, Bool.or_eq_false_iff,
            Option.isSome_eq_false_iff, Option.isNone_iff_eq_none] at untouched
          exact untouched.1.1
  | concludeCheck member started unfinished concluded =>
      exact concluded.checkStep uniqueRuns member started unfinished
  | closeRaisedCheck =>
      exact .closed _ _ rfl rfl (by simp [Ledger.unknownFinish])
        (.ofEq rfl) rfl (.inl rfl)
  | markCheckError marked =>
      cases marked with
      | ignored => exact .same rfl rfl
      | reported output _ _ isLatest =>
          exact .closed _ _ rfl rfl (by simp [Ledger.unknownFinish])
            (.ofEq rfl) rfl (.inr (.inr isLatest))
  | @tryMarkEnvironment kind _ _ _ _ _ _ _ _ _ requested =>
      cases requested with
      | repeated => exact .same rfl rfl
      | refused id _ _ => exact .same rfl rfl
      | won id _ may still =>
          cases kind with
          | start => exact .same rfl rfl
          | reset =>
              exact .idled (.ofEq rfl) rfl
                (by simp [Transaction.resetsCheck, may, still])
  | beginEnvironment begun =>
      cases begun with
      | duplicate _ => exact .same rfl rfl
      | refused _ _ _ _ => exact .same rfl rfl
      | started _ _ _ _ => exact .same rfl rfl
  | @saveLaunched kind _ _ _ row member _ _ unfinished _ =>
      cases kind with
      | start => exact .same rfl rfl
      | reset =>
          refine .idled (.ofEq rfl) rfl ?_
          have isOpen : row ∈ db.openEnvironment := List.mem_filter.mpr
              ⟨member, by simp [EnvironmentOperation.isOpen, unfinished]⟩
          exact List.any_eq_true.mpr ⟨row, isOpen, by simp⟩
  | closeRaisedEnvironment => exact .same rfl rfl
  | markEnvironmentError failed => exact failed.checkStep
  | dispatchFailed failed =>
      cases failed with
      | ignored _ => exact .same rfl rfl
      | failed _ =>
          exact .interrupted .environmentError _ (.ofEq rfl) rfl
      | legacy id _ _ =>
          exact .interrupted .environmentError _ (.ofEq rfl) rfl
  | @interrupt reason now =>
      exact .interrupted reason now (.ofEq rfl) rfl
  | @markStuck kind copy now closedAt =>
      simp only [DetectStuckAttempts.markStuckAttempt]
      split
      · refine .interrupted .watchdog closedAt ⟨rfl, ?_, ?_, Nat.le_refl _⟩ rfl
        · cases kind with
          | environment =>
              simp only [DetectStuckAttempts.environmentStuck]
              split <;> rfl
          | check => rfl
        · cases kind with
          | environment =>
              simp only [DetectStuckAttempts.environmentStuck]
              split <;> rfl
          | check => rfl
      · exact .same rfl rfl
  | submitAnswer submits =>
      obtain ⟨attempt, checks, runs, serial⟩ := submits.sameChecks
      exact .ofColumns (attempt ▸ ⟨rfl, rfl, rfl⟩) checks runs serial
  | reviewAnswer reviews =>
      obtain ⟨attempt, checks, runs, serial⟩ := reviews.sameChecks
      exact .ofColumns (attempt ▸ ⟨rfl, rfl, rfl⟩) checks runs serial
  | saveDraft =>
      simp only [Views.saveDraft]
      split <;> exact .same rfl rfl
  | submitForReview reviewed =>
      cases reviewed with
      | fixed _ => exact .same rfl rfl
      | submitted recorded serial _ _ submits grows =>
          obtain ⟨attempt, checks, runs, recordedSerial⟩ := submits.sameChecks
          refine .ofColumns ?_ checks runs (Nat.le_trans recordedSerial grows)
          rw [← attempt]
          exact ⟨rfl, rfl, rfl⟩
  | cleanup =>
      exact .ofColumns (Environments.cleanup_checkColumns ..) rfl rfl
        (Nat.le_refl _)
  | saveMentorFeedback feedback =>
      cases feedback with
      | rejected _ => exact .same rfl rfl
      | alreadySaved _ _ reviews =>
          obtain ⟨attempt, checks, runs, serial⟩ := reviews.sameChecks
          exact .ofColumns (attempt ▸ ⟨rfl, rfl, rfl⟩) checks runs serial
      | saved recorded _ _ reviews =>
          obtain ⟨attempt, checks, runs, serial⟩ := reviews.sameChecks
          refine .ofColumns ?_ checks runs serial
          rw [← attempt]
          exact Views.reviewed_checkColumns _ _ _

end TicketSandbox.Sandbox
