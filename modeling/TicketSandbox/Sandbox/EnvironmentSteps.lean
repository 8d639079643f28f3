import TicketSandbox.Library.Phases
import TicketSandbox.Sandbox.Performed

namespace TicketSandbox.Sandbox

/-!
# What a transaction does to the environment operations

A transaction may register one new operation and rewrite the operations that
are there.  Only the success of a launched operation adds a successful finish,
and only then does the restart counter change.
-/

/-- The identity, start and finish of an environment operation. -/
def EnvironmentOperation.phases :
    Phases.View EnvironmentOperation (Uuid × EnvironmentKind × Timestamp)
      Timestamp EnvironmentFinished where
  identity := fun row => (row.operationId, row.kind, row.requestedAt)
  started := EnvironmentOperation.started
  finish := EnvironmentOperation.finished

/-- A finish that reports no success. -/
def Unsuccessful
    (_ : EnvironmentOperation) (finish : EnvironmentFinished) : Prop :=
  finish.outcome ≠ .success

/-- The operations of the attempt, with at most one just registered. -/
inductive WithNew (environment : List EnvironmentOperation) :
    List EnvironmentOperation → Prop where
  | same : WithNew environment environment
  | added (event : EnvironmentOperation) :
      Environments.IsNew environment event →
      event.started = none →
      event.finished = none →
      WithNew environment (environment ++ [event])

/--
Which rows a change may start: none, or those of one operation while all the
other operations are finished.
-/
def StartsAlone (base : List EnvironmentOperation)
    (change : EnvironmentOperation → EnvironmentOperation) : Prop :=
  (∀ row ∈ base,
      (change row).started.isSome = true → row.started.isSome = true) ∨
    ∃ operation,
      (∀ row ∈ base, row.operationId ≠ operation → row.isOpen = false) ∧
        ∀ row, row.operationId ≠ operation → change row = row

/-- What one transaction can do to the environment operations. -/
inductive EnvironmentStep (db next : Db) : Prop where
  | launched (row : EnvironmentOperation) (now : Timestamp)
      (member : row ∈ db.environment)
      (started : row.started.isSome = true)
      (unfinished : row.finished = none)
      (environment : next.environment =
          Rows.modify EnvironmentOperation.operationId row.operationId
            (Ledger.closeOperation (Environments.launchedFinish now))
            db.environment)
      (count : next.attempt.restartCount =
          db.attempt.restartCount + if row.kind = .reset then 1 else 0)
  | advanced (base : List EnvironmentOperation)
      (change : EnvironmentOperation → EnvironmentOperation)
      (registered : WithNew db.environment base)
      (environment : next.environment = base.map change)
      (later : ∀ row ∈ base,
          Phases.Later EnvironmentOperation.phases Unsuccessful row
            (change row))
      (starts : StartsAlone base change)
      (count : next.attempt.restartCount = db.attempt.restartCount)

namespace Ledger

variable {added : EnvironmentOperation → EnvironmentFinished → Prop}

theorem closeOperation_later
    {finish : EnvironmentFinished} {row : EnvironmentOperation}
    (known : row.finished = none → added row finish) :
    Phases.Later EnvironmentOperation.phases added row
      (closeOperation finish row) := by
  cases closed : row.finished with
  | none =>
      simp only [closeOperation, closed, Option.isNone_none, ↓reduceIte]
      exact ⟨rfl, fun _ => id, .inr ⟨closed, finish, rfl, known closed⟩⟩
  | some event =>
      simp only [closeOperation, closed, Option.isNone_some,
        Bool.false_eq_true, ↓reduceIte]
      exact .refl row

/-- Closing an operation does not start it. -/
@[simp] theorem closeOperation_started
    (finish : EnvironmentFinished) (row : EnvironmentOperation) :
    (closeOperation finish row).started = row.started := by
  simp only [closeOperation]
  split <;> rfl

theorem closeOperation_closeOperation
    (first second : EnvironmentFinished) (row : EnvironmentOperation) :
    closeOperation second (closeOperation first row) =
      closeOperation first row := by
  cases closed : row.finished with
  | none => simp [closeOperation, closed]
  | some event => simp [closeOperation, closed]

theorem startOperation_later (now : Timestamp) (row : EnvironmentOperation) :
    Phases.Later EnvironmentOperation.phases added row
      (startOperation now row) := by
  simp only [startOperation]
  split
  · rename_i unstarted
    refine ⟨rfl, fun start began => ?_, .inl rfl⟩
    rw [Option.isNone_iff_eq_none] at unstarted
    cases unstarted.symm.trans began
  · exact .refl row

theorem noteDuplicateOperation_later
    (now : Timestamp) (row : EnvironmentOperation) :
    Phases.Later EnvironmentOperation.phases added row
      (noteDuplicateOperation now row) := by
  simp only [noteDuplicateOperation]
  split
  · exact ⟨rfl, fun _ => id, .inl rfl⟩
  · exact .refl row

/-- Noting a duplicate delivery does not start the operation. -/
@[simp] theorem noteDuplicateOperation_started
    (now : Timestamp) (row : EnvironmentOperation) :
    (noteDuplicateOperation now row).started = row.started := by
  simp only [noteDuplicateOperation]
  split <;> rfl

end Ledger

variable {db next : Db} {base : List EnvironmentOperation}
  {operation generated : Uuid} {kind : EnvironmentKind} {now : Timestamp}
  {error : String} {opId : OperationInput}

namespace EnvironmentStep

theorem kept (environment : next.environment = db.environment)
    (count : next.attempt.restartCount = db.attempt.restartCount) :
    EnvironmentStep db next :=
  .advanced db.environment id .same (by simpa using environment)
    (fun row _ => .refl row) (.inl fun _ _ => id) count

theorem ofSame {other : Db} (step : EnvironmentStep db next)
    (environment : other.environment = next.environment)
    (count : other.attempt.restartCount = next.attempt.restartCount) :
    EnvironmentStep db other := by
  cases step with
  | launched row now member started unfinished rows counted =>
      exact .launched row now member started unfinished
        (environment.trans rows) (count.trans counted)
  | advanced base change registered rows later starts counted =>
      exact .advanced base change registered (environment.trans rows) later
        starts (count.trans counted)

variable {change : EnvironmentOperation → EnvironmentOperation}

theorem modified
    (registered : WithNew db.environment base) (environment : next.environment =
        Rows.modify EnvironmentOperation.operationId operation change base)
    (later : ∀ row,
        Phases.Later EnvironmentOperation.phases Unsuccessful row (change row))
    (noStart : ∀ row, (change row).started = row.started)
    (count : next.attempt.restartCount = db.attempt.restartCount) :
    EnvironmentStep db next := by
  refine .advanced base _ registered environment
    (fun row _ => .ofModify fun _ => later row) (.inl ?_) count
  intro row _ started
  by_cases same : row.operationId = operation
  · simpa [same, noStart] using started
  · simpa [same] using started

theorem mapped (registered : WithNew db.environment base)
    (environment : next.environment = base.map change) (later : ∀ row,
        Phases.Later EnvironmentOperation.phases Unsuccessful row (change row))
    (noStart : ∀ row, (change row).started = row.started)
    (count : next.attempt.restartCount = db.attempt.restartCount) :
    EnvironmentStep db next :=
  .advanced base change registered environment (fun row _ => later row)
    (.inl fun row _ started => by simpa [noStart] using started) count

end EnvironmentStep

theorem Environments.Registered.withNew {request : EnvironmentOperation}
    (registered : Registered db kind operation now base request) :
    WithNew db.environment base := by
  cases registered with
  | found _ _ _ => exact .same
  | added isNew => exact .added _ isNew rfl rfl

theorem Environments.Begun.environmentStep
    {begun : Bool} (begins : Begun db kind operation now next begun) :
    EnvironmentStep db next := by
  cases begins with
  | duplicate registered =>
      exact .modified registered.withNew rfl
        (Ledger.noteDuplicateOperation_later now)
        (Ledger.noteDuplicateOperation_started now) rfl
  | refused registered _ _ _ =>
      exact .modified registered.withNew rfl
        (fun row => Ledger.closeOperation_later fun _ => by
          simp [Unsuccessful, Ledger.refusedFinish])
        (Ledger.closeOperation_started _) rfl
  | started registered others _ _ =>
      refine .advanced _ _ registered.withNew rfl
        (fun row _ => .ofModify fun _ => Ledger.startOperation_later now row)
        (.inr ⟨operation, others, ?_⟩) rfl
      intro row different
      simp [different]

theorem Ledger.closeInterrupted_later
    (reason : Reason) (now : Timestamp) (row : EnvironmentOperation) :
    Phases.Later EnvironmentOperation.phases Unsuccessful row
      (closeOperation (interruptedFinish reason now) row) :=
  closeOperation_later fun _ => by
    simp [Unsuccessful, interruptedFinish]

theorem Environments.Failed.environmentStep
    (failed : Failed kind db error now next) : EnvironmentStep db next := by
  cases failed with
  | ignored _ => exact .kept rfl rfl
  | failed _ =>
      exact .mapped .same rfl
        (Ledger.closeInterrupted_later .environmentError now)
        (Ledger.closeOperation_started _) rfl
  | legacy id _ untouched =>
      refine .mapped ?_ rfl
        (Ledger.closeInterrupted_later .environmentError now)
        (Ledger.closeOperation_started _) rfl
      have added : WithNew db.environment (db.environment ++
            [Ledger.newOperation db.identity kind none .unknown id now]) :=
        .added _ (by simp [Environments.IsNew, untouched]) rfl rfl
      simpa [untouched] using added

theorem Environments.Failed.dispatchStep
    (failed : Failed kind (Ledger.environmentFinished db operation
          (Ledger.interruptedFinish .dispatchError now))
        error now next) :
    EnvironmentStep db next := by
  have dispatchCloses := Ledger.closeInterrupted_later .dispatchError now
  cases failed with
  | ignored _ =>
      exact .modified .same rfl dispatchCloses
        (Ledger.closeOperation_started _) rfl
  | failed _ =>
      refine .mapped .same (List.map_map ..) ?_ ?_ rfl
      · intro row
        by_cases same : row.operationId = operation
        · simpa [same, Ledger.closeOperation_closeOperation]
            using dispatchCloses row
        · simpa [same] using
            Ledger.closeInterrupted_later .environmentError now row
      · intro row
        by_cases same : row.operationId = operation <;> simp [same]
  | legacy id still untouched =>
      have empty : db.environment = [] := by
        simpa [Ledger.environmentFinished, Db.modifyOperation, Rows.modify]
          using untouched
      have fresh : Failed kind db error now _ := .legacy id still empty
      exact fresh.environmentStep

theorem Ledger.Submitted.environmentStep
    {clientAnswer traineeReport : Text} {submission : AnswerSubmission}
    {created : Bool} (submits :
      Submitted db clientAnswer traineeReport opId generated now next
        submission created) :
    EnvironmentStep db next := by
  cases submits with
  | repeated _ _ _ => exact .kept rfl rfl
  | created _ _ _ _ => exact .kept rfl rfl

theorem Ledger.Reviewed.environmentStep
    {actor : Pk} {decision : MentorDecision} {comment : Text}
    {submissionId : Option Pk} {event : Option AnswerReviewEvent} (reviews :
      Reviewed db actor decision comment submissionId opId generated now
        next event) :
    EnvironmentStep db next := by
  cases reviews with
  | withoutSubmission _ _ => exact .kept rfl rfl
  | replayed _ _ _ _ _ => exact .kept rfl rfl
  | unchanged _ _ _ _ _ _ => exact .kept rfl rfl
  | recorded _ _ _ _ _ _ _ _ => exact .kept rfl rfl

/-- What any transaction does to the environments. -/
theorem Performed.environmentStep {transaction : Transaction} {reply : Reply}
    (performed : Performed db transaction next reply) :
    EnvironmentStep db next := by
  cases performed with
  | tryMarkCheck marked =>
      cases marked with
      | refused => exact .kept rfl rfl
      | requested _ _ _ => exact .kept rfl rfl
  | recordDuplicate => exact .kept rfl rfl
  | beginCheck begun =>
      cases begun with
      | duplicate => exact .kept rfl rfl
      | started _ _ _ => exact .kept rfl rfl
  | concludeCheck _ _ _ concluded =>
      cases concluded with
      | unknown _ _ _ _ => exact .kept rfl rfl
      | passed _ _ _ =>
          refine .kept rfl ?_
          simp only [Checks.checkPassed]
          split <;> rfl
      | failed _ _ _ => exact .kept rfl rfl
  | closeRaisedCheck => exact .kept rfl rfl
  | markCheckError marked =>
      cases marked with
      | ignored => exact .kept rfl rfl
      | reported _ _ _ _ => exact .kept rfl rfl
  | @tryMarkEnvironment kind _ _ _ _ _ _ _ _ _ requested =>
      cases requested with
      | repeated => exact .kept rfl rfl
      | refused id isNew _ =>
          refine .modified (.added _ isNew rfl rfl)
            (Rows.modify_append_new isNew).symm
            (fun row => Ledger.closeOperation_later fun _ => by
              simp [Unsuccessful, Ledger.refusedFinish])
            (Ledger.closeOperation_started _) rfl
      | won id isNew _ _ =>
          refine .mapped (.added _ isNew rfl rfl) (List.map_id _).symm
            (fun row => .refl row) (fun _ => rfl) ?_
          cases kind <;> rfl
  | beginEnvironment begun => exact begun.environmentStep
  | @saveLaunched kind _ _ now row member sameKind started unfinished counted =>
      refine .launched row now member started unfinished rfl ?_
      rw [sameKind]
      cases kind with
      | start => rfl
      | reset => exact congrArg (· + 1) counted
  | closeRaisedEnvironment =>
      exact .modified .same rfl
        (Ledger.closeInterrupted_later .environmentError _)
        (Ledger.closeOperation_started _) rfl
  | markEnvironmentError failed => exact failed.environmentStep
  | dispatchFailed failed => exact failed.dispatchStep
  | @interrupt reason now =>
      exact .mapped .same rfl (Ledger.closeInterrupted_later reason now)
        (Ledger.closeOperation_started _) rfl
  | @markStuck kind copy now closedAt =>
      simp only [DetectStuckAttempts.markStuckAttempt]
      split
      · refine .mapped .same rfl
          (Ledger.closeInterrupted_later .watchdog closedAt)
          (Ledger.closeOperation_started _) ?_
        cases kind with
        | environment =>
            simp only [DetectStuckAttempts.environmentStuck]
            split <;> rfl
        | check => rfl
      · exact .kept rfl rfl
  | submitAnswer submits => exact submits.environmentStep
  | reviewAnswer reviews => exact reviews.environmentStep
  | saveDraft =>
      simp only [Views.saveDraft]
      split <;> exact .kept rfl rfl
  | submitForReview reviewed =>
      cases reviewed with
      | fixed _ => exact .kept rfl rfl
      | submitted recorded _ _ _ submits _ =>
          exact submits.environmentStep.ofSame rfl rfl
  | cleanup =>
      refine .kept rfl ?_
      simp only [Environments.cleanupAttemptEnvironment]
      split_ifs <;> rfl
  | saveMentorFeedback feedback =>
      cases feedback with
      | rejected _ => exact .kept rfl rfl
      | alreadySaved _ _ reviews => exact reviews.environmentStep
      | saved recorded _ _ reviews =>
          refine reviews.environmentStep.ofSame rfl ?_
          simp only [Views.reviewed]
          split <;> rfl

end TicketSandbox.Sandbox
