import TicketSandbox.Sandbox.CleanupTaskContainers
import TicketSandbox.Sandbox.EnvironmentSteps

namespace TicketSandbox.Sandbox.CleanupTaskContainers

/-!
# What the steps beside the command keep

A step that grants no request, begins no operation, saves no launch and puts
no older container columns back leaves the environment of the attempt and its
open operations as they were, except that it may clear or close them.
-/

/-- The column is as it was, or blank. -/
def KeptOr {α : Type} (blank old new : α) : Prop :=
  new = old ∨ new = blank

theorem KeptOr.trans {α : Type} {blank first second third : α}
    (before : KeptOr blank first second) (after : KeptOr blank second third) :
    KeptOr blank first third := by
  rcases after with rfl | isBlank
  · exact before
  · exact .inr isBlank

/-- The row has the environment that was seen, or what is left of it. -/
structure SameEnvironment (seen row : TaskAttempt) : Prop where
  startedAt : row.startedAt = seen.startedAt
  restartCount : row.restartCount = seen.restartCount
  containerId : KeptOr "" seen.containerId row.containerId
  containerName : KeptOr "" seen.containerName row.containerName
  shellCommand : KeptOr "" seen.shellCommand row.shellCommand
  terminalContainerName :
    KeptOr "" seen.terminalContainerName row.terminalContainerName
  terminalUrl : KeptOr "" seen.terminalUrl row.terminalUrl
  terminalPort : KeptOr none seen.terminalPort row.terminalPort
  environmentStartedAt :
    KeptOr none seen.environmentStartedAt row.environmentStartedAt
  environmentStatus : row.environmentStatus = seen.environmentStatus ∨
      row.environmentStatus = .idle ∨ row.environmentStatus = .error

/-- The columns of the environment but its status. -/
def environmentColumns (attempt : TaskAttempt) :=
  (attempt.startedAt, attempt.restartCount, attempt.containerId,
    attempt.containerName, attempt.shellCommand,
    attempt.terminalContainerName, attempt.terminalUrl, attempt.terminalPort,
    attempt.environmentStartedAt)

namespace SameEnvironment

theorem ofColumns {seen row : TaskAttempt}
    (columns : environmentColumns row = environmentColumns seen)
    (status : row.environmentStatus = seen.environmentStatus ∨
        row.environmentStatus = .idle ∨ row.environmentStatus = .error) :
    SameEnvironment seen row := by
  simp only [environmentColumns, Prod.mk.injEq] at columns
  obtain ⟨start, restarts, id, name, command, terminal, url, port, since⟩ :=
    columns
  exact ⟨start, restarts, .inl id, .inl name, .inl command, .inl terminal,
      .inl url, .inl port, .inl since, status⟩

theorem refl (attempt : TaskAttempt) : SameEnvironment attempt attempt :=
  .ofColumns rfl (.inl rfl)

theorem trans
    {first second third : TaskAttempt} (before : SameEnvironment first second)
    (after : SameEnvironment second third) :
    SameEnvironment first third where
  startedAt := after.startedAt.trans before.startedAt
  restartCount := after.restartCount.trans before.restartCount
  containerId := before.containerId.trans after.containerId
  containerName := before.containerName.trans after.containerName
  shellCommand := before.shellCommand.trans after.shellCommand
  terminalContainerName :=
    before.terminalContainerName.trans after.terminalContainerName
  terminalUrl := before.terminalUrl.trans after.terminalUrl
  terminalPort := before.terminalPort.trans after.terminalPort
  environmentStartedAt :=
    before.environmentStartedAt.trans after.environmentStartedAt
  environmentStatus := by
    rcases after.environmentStatus with same | ended
    · rw [same]
      exact before.environmentStatus
    · exact .inr ended

end SameEnvironment

/-- The open operation is the prior one, begun exactly when that one was. -/
structure SameRequest (prior row : EnvironmentOperation) : Prop where
  operationId : prior.operationId = row.operationId
  kind : prior.kind = row.kind
  requestedAt : prior.requestedAt = row.requestedAt
  started : prior.started = row.started
  unfinished : prior.finished = none

/-- Every open operation of the new table was open in the old one. -/
def StillOpen (old new : List EnvironmentOperation) : Prop :=
  ∀ row ∈ new, row.finished = none → ∃ prior ∈ old, SameRequest prior row

namespace StillOpen

theorem refl (rows : List EnvironmentOperation) : StillOpen rows rows :=
  fun row member unfinished => ⟨row, member, rfl, rfl, rfl, rfl, unfinished⟩

theorem trans {first second third : List EnvironmentOperation}
    (before : StillOpen first second) (after : StillOpen second third) :
    StillOpen first third := by
  intro row member unfinished
  obtain ⟨middle, middleMember, later⟩ := after row member unfinished
  obtain ⟨prior, priorMember, earlier⟩ :=
    before middle middleMember later.unfinished
  exact ⟨prior, priorMember, earlier.operationId.trans later.operationId,
      earlier.kind.trans later.kind,
      earlier.requestedAt.trans later.requestedAt,
      earlier.started.trans later.started, earlier.unfinished⟩

variable {change : EnvironmentOperation → EnvironmentOperation}

theorem map
    (kept : ∀ row, (change row).finished = none → SameRequest row (change row))
    (rows : List EnvironmentOperation) :
    StillOpen rows (rows.map change) := by
  intro row member unfinished
  obtain ⟨prior, priorMember, rfl⟩ := List.mem_map.mp member
  exact ⟨prior, priorMember, kept prior unfinished⟩

theorem modify
    (kept : ∀ row, (change row).finished = none → SameRequest row (change row))
    (operation : Uuid) (rows : List EnvironmentOperation) :
    StillOpen rows
      (Rows.modify EnvironmentOperation.operationId operation change rows) := by
  refine map ?_ rows
  intro row unfinished
  by_cases same : row.operationId = operation
  · rw [if_pos same] at unfinished ⊢
    exact kept row unfinished
  · rw [if_neg same] at unfinished ⊢
    exact ⟨rfl, rfl, rfl, rfl, unfinished⟩

theorem closedNew (rows : List EnvironmentOperation)
    (event : EnvironmentOperation) (finish : EnvironmentFinished) :
    StillOpen rows
      (Rows.modify EnvironmentOperation.operationId event.operationId
        (Ledger.closeOperation finish) (rows ++ [event])) := by
  intro row member unfinished
  obtain ⟨prior, priorMember, ⟨same, rfl⟩ | ⟨different, rfl⟩⟩ :=
    Rows.mem_modify.mp member
  · cases closed : prior.finished <;>
      simp [Ledger.closeOperation, closed] at unfinished
  · rcases List.mem_append.mp priorMember with isOld | isNew
    · exact refl rows row isOld unfinished
    · rw [List.mem_singleton.mp isNew] at different
      exact (different rfl).elim

end StillOpen

theorem closeOperation_sameRequest
    (finish : EnvironmentFinished) (row : EnvironmentOperation)
    (unfinished : (Ledger.closeOperation finish row).finished = none) :
    SameRequest row (Ledger.closeOperation finish row) := by
  cases closed : row.finished <;>
    simp [Ledger.closeOperation, closed] at unfinished

theorem noteDuplicate_sameRequest (now : Timestamp) (row : EnvironmentOperation)
    (unfinished : (Ledger.noteDuplicateOperation now row).finished = none) :
    SameRequest row (Ledger.noteDuplicateOperation now row) := by
  simp only [Ledger.noteDuplicateOperation] at unfinished ⊢
  split at unfinished
  · rename_i first
    rw [if_pos first]
    exact ⟨rfl, rfl, rfl, rfl, unfinished⟩
  · rename_i noted
    rw [if_neg noted]
    exact ⟨rfl, rfl, rfl, rfl, unfinished⟩

/-- The transaction keeps the environment and opens no operation. -/
structure Spared (db next : Db) : Prop where
  environment : SameEnvironment db.attempt next.attempt
  operations : StillOpen db.environment next.environment

variable {first second third db next requested : Db} {copy : TaskAttempt}
  {generated operation : Uuid} {now : Timestamp} {opId : OperationInput}
  {submission : AnswerSubmission} {created : Bool} {actor : Pk}
  {decision : MentorDecision} {comment : Text}
  {event request : EnvironmentOperation} {origin : Origin}
  {cleanups : List CleanupRequest} {reply : Reply}

namespace Spared

/-- A step that touches neither attempt nor operations spares both. -/
theorem ofSame (attempt : next.attempt = db.attempt)
    (environment : next.environment = db.environment) :
    Spared db next where
  environment := attempt ▸ .refl db.attempt
  operations := environment ▸ .refl db.environment

theorem ofAttempt (kept : SameEnvironment db.attempt next.attempt)
    (environment : next.environment = db.environment) :
    Spared db next where
  environment := kept
  operations := environment ▸ .refl db.environment

theorem ofOperations (attempt : next.attempt = db.attempt)
    (kept : StillOpen db.environment next.environment) :
    Spared db next where
  environment := attempt ▸ .refl db.attempt
  operations := kept

theorem trans (before : Spared first second) (after : Spared second third) :
    Spared first third where
  environment := before.environment.trans after.environment
  operations := before.operations.trans after.operations

end Spared

/-- The columns and the operations are the same in both databases. -/
structure Untouched (db next : Db) : Prop where
  attempt : next.attempt = db.attempt
  environment : next.environment = db.environment

namespace Untouched

theorem observe (db : Db) (copy : TaskAttempt) :
    Untouched db (Ledger.observe db copy) := by
  simp only [Ledger.observe]
  split <;> exact ⟨rfl, rfl⟩

theorem gap (db : Db) (reason : GapReason) :
    Untouched db (Ledger.gap db reason) := by
  simp only [Ledger.gap]
  split <;> exact ⟨rfl, rfl⟩

theorem finishCheck
    (db : Db) (execution : Option Uuid) (finish : CheckFinished) :
    Untouched db (Ledger.finishCheck db execution finish) := by
  cases execution <;> exact ⟨rfl, rfl⟩

theorem trans
    (before : Untouched first second) (after : Untouched second third) :
    Untouched first third :=
  ⟨after.attempt.trans before.attempt,
    after.environment.trans before.environment⟩

theorem spared (untouched : Untouched db next) : Spared db next :=
  .ofSame untouched.attempt untouched.environment

end Untouched

variable {execution : TechnicalCheckExecution}

theorem requestCheck_untouched
    {source : CheckSource} {runId : OperationInput} (accepted :
      Ledger.requestCheck db copy source runId generated now =
        .ok (next, execution)) :
    Untouched db next := by
  simp only [Ledger.requestCheck] at accepted
  split at accepted
  · simp at accepted
  split at accepted
  · simp at accepted
  have recorded (execution : TechnicalCheckExecution) : Untouched db
        { Ledger.observe db copy with
          checks := (Ledger.observe db copy).checks ++ [execution] } :=
    (Untouched.observe db copy).trans ⟨rfl, rfl⟩
  split at accepted
  · simp only [Except.ok.injEq, Prod.mk.injEq] at accepted
    obtain ⟨rfl, -⟩ := accepted
    exact (recorded _).trans (.gap _ _)
  · simp only [Except.ok.injEq, Prod.mk.injEq] at accepted
    obtain ⟨rfl, -⟩ := accepted
    exact recorded _

theorem submitAnswer_untouched {clientAnswer traineeReport : Text} (accepted :
      Ledger.submitAnswer db copy clientAnswer traineeReport opId generated
          now =
        .ok (next, submission, created)) :
    Untouched db next := by
  simp only [Ledger.submitAnswer] at accepted
  split at accepted
  · simp at accepted
  split at accepted
  · simp at accepted
  split at accepted
  · simp at accepted
  split at accepted
  · split at accepted
    · simp at accepted
    · simp only [Except.ok.injEq, Prod.mk.injEq] at accepted
      obtain ⟨rfl, -⟩ := accepted
      exact .observe db copy
  · simp only [Except.ok.injEq, Prod.mk.injEq] at accepted
    obtain ⟨rfl, -⟩ := accepted
    exact (Untouched.observe db copy).trans ⟨rfl, rfl⟩

theorem publish_untouched
    {event : SourceEvent} (accepted : Ledger.publish db event = .ok next) :
    Untouched db next := by
  simp only [Ledger.publish] at accepted
  split at accepted
  · split at accepted
    · cases accepted
      exact ⟨rfl, rfl⟩
    · simp at accepted
  · cases accepted
    exact ⟨rfl, rfl⟩

theorem saveReview_untouched {event : AnswerReviewEvent}
    (accepted : Ledger.saveReview db submission event = .ok next) :
    Untouched db next := by
  simp only [Ledger.saveReview] at accepted
  split_ifs at accepted
  cases accepted
  exact ⟨rfl, rfl⟩

theorem recordReview_untouched {event : Option AnswerReviewEvent} (accepted :
      Ledger.recordReview db submission actor decision comment opId generated
          now =
        .ok (next, event)) :
    Untouched db next := by
  simp only [Ledger.recordReview] at accepted
  split at accepted
  · simp at accepted
  split at accepted
  · simp at accepted
  split at accepted
  · split at accepted
    · cases accepted
      exact ⟨rfl, rfl⟩
    · simp at accepted
  split at accepted
  · cases accepted
    exact ⟨rfl, rfl⟩
  split at accepted
  · simp at accepted
  rename_i saved
  have written := saveReview_untouched saved
  split at accepted
  · split at accepted
    · simp at accepted
    · rename_i published
      cases accepted
      exact written.trans (publish_untouched published)
  · cases accepted
    exact written

theorem reviewAnswer_untouched
    {submissionId : Option Pk} {event : Option AnswerReviewEvent} (accepted :
      Ledger.reviewAnswer db copy actor decision comment submissionId opId
          generated now =
        .ok (next, event)) :
    Untouched db next := by
  have observed := Untouched.observe db copy
  simp only [Ledger.reviewAnswer] at accepted
  split at accepted
  · simp at accepted
  split at accepted
  · split at accepted
    · simp at accepted
    · cases accepted
      exact observed.trans (.gap _ _)
  split at accepted
  · simp at accepted
  split at accepted
  · split at accepted
    · simp at accepted
    · exact (observed.trans (.gap _ _)).trans (recordReview_untouched accepted)
  · split at accepted
    · simp at accepted
    · exact observed.trans (recordReview_untouched accepted)

variable {kind : EnvironmentKind}

theorem requestEnvironment_shape {actor : Option Pk} (accepted :
      Ledger.requestEnvironment db copy kind actor origin opId generated now =
        .ok (next, event, created)) :
    next.attempt = db.attempt ∧
      ((created = false ∧ next.environment = db.environment) ∨
        (created = true ∧ next.environment = db.environment ++ [event] ∧
          Environments.IsNew db.environment event ∧
          event.started = none ∧ event.finished = none)) := by
  simp only [Ledger.requestEnvironment] at accepted
  split at accepted
  · simp at accepted
  split at accepted
  · simp at accepted
  split at accepted
  · simp at accepted
  split at accepted
  · simp at accepted
  split at accepted
  · split at accepted
    · simp only [Except.ok.injEq, Prod.mk.injEq] at accepted
      obtain ⟨rfl, -, rfl⟩ := accepted
      exact ⟨rfl, .inl ⟨rfl, rfl⟩⟩
    · simp at accepted
  · rename_i absent
    simp only [Except.ok.injEq, Prod.mk.injEq] at accepted
    obtain ⟨rfl, rfl, rfl⟩ := accepted
    have observed := Untouched.observe db copy
    refine ⟨observed.attempt, .inr ⟨rfl, ?_, ?_, rfl, rfl⟩⟩
    · simp only [observed.environment]
    · intro row member
      simpa [Ledger.newOperation] using List.find?_eq_none.mp absent row member

theorem refusedRequest_spared (attempt : requested.attempt = db.attempt)
    (environment : requested.environment = db.environment ++ [event])
    (finish : EnvironmentFinished) :
    Spared db
      (Ledger.environmentFinished requested event.operationId finish) := by
  refine .ofOperations attempt ?_
  simp only [Ledger.environmentFinished, Db.modifyOperation, environment]
  exact .closedNew db.environment event finish

theorem environmentFinished_spared
    (db : Db) (operation : Uuid) (finish : EnvironmentFinished) :
    Spared db (Ledger.environmentFinished db operation finish) :=
  .ofOperations rfl
    (.modify (closeOperation_sameRequest finish) operation db.environment)

theorem environmentDuplicate_spared
    (db : Db) (operation : Uuid) (now : Timestamp) :
    Spared db (Ledger.environmentDuplicate db operation now) :=
  .ofOperations rfl
    (.modify (noteDuplicate_sameRequest now) operation db.environment)

theorem interrupt_spared (db : Db) (reason : Reason) (now : Timestamp) :
    Spared db (Ledger.interrupt db reason now) :=
  .ofOperations rfl
    (.map (closeOperation_sameRequest (Ledger.interruptedFinish reason now))
      db.environment)

theorem operation?_registered {rows : List EnvironmentOperation}
    (environment : db.environment = rows ++ [event])
    (isNew : Environments.IsNew rows event) :
    db.operation? event.operationId = some event := by
  rw [Db.operation?, environment, List.find?_append,
    List.find?_eq_none.mpr (by simpa [Environments.IsNew] using isNew)]
  simp

theorem beginRequested_spared
    (attempt : requested.attempt = db.attempt) (registered :
      (created = false ∧ requested.environment = db.environment) ∨
        (created = true ∧ requested.environment = db.environment ++ [request] ∧
          Environments.IsNew db.environment request ∧
          request.started = none ∧ request.finished = none))
    (unbegun : (Ledger.beginRequested requested request now).2.2 = false) :
    Spared db (Ledger.beginRequested requested request now).1 := by
  rcases registered with
    ⟨-, environment⟩ | ⟨-, environment, isNew, unstarted, unfinished⟩
  · refine (Spared.ofSame attempt environment).trans ?_
    simp only [Ledger.beginRequested] at unbegun ⊢
    split
    · exact environmentDuplicate_spared ..
    split
    · exact environmentFinished_spared ..
    · rename_i untouched alone
      rw [if_neg untouched, if_neg alone] at unbegun
      cases unbegun
  · simp only [Ledger.beginRequested,
      operation?_registered environment isNew, Option.getD_some, unstarted,
      unfinished] at unbegun ⊢
    simp only [Option.isSome_none, Bool.false_eq_true, or_self,
      ↓reduceIte] at unbegun ⊢
    split
    · exact refusedRequest_spared attempt environment _
    · rename_i alone
      rw [if_neg alone] at unbegun
      cases unbegun

theorem refuseRequested_spared
    (attempt : requested.attempt = db.attempt) (registered :
      (created = false ∧ requested.environment = db.environment) ∨
        (created = true ∧ requested.environment = db.environment ++ [request] ∧
          Environments.IsNew db.environment request ∧
          request.started = none ∧ request.finished = none)) :
    Spared db (refuseRequested requested request now) := by
  rcases registered with
    ⟨-, environment⟩ | ⟨-, environment, isNew, unstarted, unfinished⟩
  · refine (Spared.ofSame attempt environment).trans ?_
    simp only [refuseRequested]
    split
    · exact environmentDuplicate_spared ..
    · exact environmentFinished_spared ..
  · simp only [refuseRequested, operation?_registered environment isNew,
      Option.getD_some, unstarted, unfinished, Option.isSome_none,
      Bool.false_eq_true, or_self, ↓reduceIte]
    exact refusedRequest_spared attempt environment _

/-- The container columns of a copy are those of the row. -/
def sameContainers (attempt copy : TaskAttempt) : Bool :=
  decide (copy.containerId = attempt.containerId ∧
      copy.containerName = attempt.containerName ∧
      copy.shellCommand = attempt.shellCommand ∧
      copy.terminalContainerName = attempt.terminalContainerName ∧
      copy.terminalUrl = attempt.terminalUrl ∧
      copy.terminalPort = attempt.terminalPort)

/--
The transaction puts another environment into the row: it grants a request,
begins an operation, saves a launch, or lets a passed check put the container
columns of an older copy back.
-/
def opensEnvironment
    (cleanups : List CleanupRequest) (db : Db) : Transaction → Bool
  | .tryMarkEnvironment kind copy actor origin opId generated requestedAt
      _ =>
      match Ledger.requestEnvironment db copy kind actor origin opId
          generated requestedAt with
      | .ok (_, _, true) => !db.attempt.environmentStatus.isSpinning
      | _ => false
  | .beginEnvironment kind copy operation generated now =>
      if cleanups.any CleanupRequest.isOpen then
        false
      else
        match Ledger.beginEnvironment db copy kind (.given operation) none
            .unknown generated now with
        | .ok (_, _, begun) => begun
        | .error _ => false
  | .saveLaunched _ _ operation _ _ =>
      match Ledger.environmentLive db operation with
      | .ok _ => true
      | .error _ => false
  | .concludeCheck _ copy (.exited (some 0) _) _ =>
      Checks.awaitsAnswer db && !sameContainers db.attempt copy
  | _ => false

theorem failEnvironment_spared
    (kind : EnvironmentKind) (db : Db) (error : String) (now : Timestamp) :
    Spared db (Environments.failEnvironment kind db error now) where
  environment := .ofColumns rfl (.inr (.inr rfl))
  operations := (interrupt_spared db .environmentError now).operations

theorem markEnvironmentError_spared {error : String} (accepted :
      Environments.markEnvironmentError kind db copy error generated now =
        .ok next) :
    Spared db next := by
  simp only [Environments.markEnvironmentError] at accepted
  split at accepted
  · cases accepted
    exact failEnvironment_spared ..
  split at accepted
  · cases accepted
    exact .ofSame rfl rfl
  split at accepted
  · simp at accepted
  rename_i requested event created result
  cases accepted
  have noted := Untouched.gap db .legacyEnvironmentDelivery
  obtain ⟨attempt, registered⟩ := requestEnvironment_shape result
  have failed := failEnvironment_spared kind requested error now
  refine ⟨?_, ?_⟩
  · have kept := failed.environment
    rw [attempt, noted.attempt] at kept
    exact kept
  · intro row member unfinished
    obtain ⟨prior, priorMember, rfl⟩ := List.mem_map.mp member
    cases closed : prior.finished <;>
      simp [Ledger.closeOperation, closed] at unfinished

/-- A concluded check that puts nothing back keeps the environment. -/
theorem concludeCheck_spared
    {execution : Option Uuid} {outcome : Checks.CheckerOutcome} (idle :
      opensEnvironment cleanups db (.concludeCheck execution copy outcome now) =
        false)
    (accepted : Checks.concludeCheck db execution copy outcome now = .ok next) :
    Spared db next := by
  have failed (middle : Db) (status : CheckStatus) (output : String)
      (finish : CheckFinished)
      (attempt :
        middle.attempt = Checks.checkFailed db.attempt status output now)
      (environment : middle.environment = db.environment) :
      Spared db (Ledger.finishCheck middle execution finish) := by
    refine Spared.trans (.ofAttempt ?_ environment)
      (Untouched.finishCheck middle execution finish).spared
    rw [attempt]
    exact .ofColumns rfl (.inl rfl)
  simp only [Checks.concludeCheck] at accepted
  split at accepted
  · simp only [Checks.concludeDockerError] at accepted
    split at accepted
    · simp at accepted
    · cases accepted
      exact failed _ _ _ _ rfl rfl
  · simp only [Checks.concludeExitCodeMissing] at accepted
    split at accepted
    · simp at accepted
    · cases accepted
      exact failed _ _ _ _ rfl rfl
  split at accepted
  · rename_i passed
    subst passed
    simp only [Checks.concludePassed] at accepted
    split at accepted
    · simp at accepted
    have saved : SameEnvironment db.attempt
          (Checks.checkPassed db copy ‹String› now) := by
      simp only [Checks.checkPassed]
      split
      · rename_i awaits
        simp only [opensEnvironment, awaits, Bool.true_and,
          Bool.not_eq_eq_eq_not, Bool.not_false, sameContainers,
          decide_eq_true_eq] at idle
        obtain ⟨id, name, command, terminal, url, port⟩ := idle
        exact ⟨rfl, rfl, .inl id, .inl name, .inl command, .inl terminal,
            .inl url, .inl port, .inl rfl, .inl rfl⟩
      · exact ⟨rfl, rfl, .inr rfl, .inr rfl, .inr rfl, .inr rfl, .inr rfl,
            .inr rfl, .inl rfl, .inl rfl⟩
    have written (middle : Db) (finish : CheckFinished)
        (attempt : middle.attempt = Checks.checkPassed db copy ‹String› now)
        (environment : middle.environment = db.environment) :
        Spared db (Ledger.finishCheck middle execution finish) :=
      Spared.trans (.ofAttempt (attempt ▸ saved) environment)
        (Untouched.finishCheck middle execution finish).spared
    split at accepted
    · exact Spared.trans (written { db with
            serial := _
            checkRuns := _
            attempt := _ } _ rfl rfl)
          (publish_untouched accepted).spared
    · cases accepted
      exact written _ _ rfl rfl
  · simp only [Checks.concludeFailed] at accepted
    split at accepted
    · simp at accepted
    · cases accepted
      exact failed _ _ _ _ rfl rfl

theorem cleanup_spared
    (db : Db) (copy : TaskAttempt) (terminalRemoved containerRemoved : Bool) :
    Spared db (Environments.cleanupAttemptEnvironment db copy terminalRemoved
        containerRemoved) := by
  refine .ofAttempt ?_ rfl
  constructor <;> simp only [Environments.cleanupAttemptEnvironment, KeptOr] <;>
    split_ifs <;>
    simp

theorem markStuck_spared (kind : DetectStuckAttempts.StuckKind) (db : Db)
    (copy : TaskAttempt) (now closedAt : Timestamp) :
    Spared db
      (DetectStuckAttempts.markStuckAttempt kind db copy now closedAt) := by
  simp only [DetectStuckAttempts.markStuckAttempt]
  split
  · refine ⟨?_, (interrupt_spared db .watchdog closedAt).operations⟩
    cases kind with
    | environment =>
        simp only [DetectStuckAttempts.environmentStuck]
        split <;> exact .ofColumns rfl (.inr (.inr rfl))
    | check => exact .ofColumns rfl (.inl rfl)
  · exact .ofSame rfl rfl

variable {requestedAt : Timestamp}

theorem tryMarkEnvironment_spared {actor : Option Pk}
    {operation : Option Uuid} (idle : opensEnvironment cleanups db
          (.tryMarkEnvironment kind copy actor origin opId generated
            requestedAt now) =
        false)
    (accepted : Environments.tryMarkEnvironment kind db copy actor origin opId
          generated requestedAt now =
        .ok (next, operation)) :
    Spared db next := by
  simp only [opensEnvironment] at idle
  simp only [Environments.tryMarkEnvironment] at accepted
  split at accepted
  · simp at accepted
  · rename_i requested event result
    cases accepted
    rcases requestEnvironment_shape result with
      ⟨attempt, ⟨_, environment⟩ | ⟨created, _⟩⟩
    · exact .ofSame attempt environment
    · simp at created
  · rename_i requested event result
    simp only [result, Bool.not_eq_eq_eq_not, Bool.not_false] at idle
    rcases requestEnvironment_shape result with
      ⟨attempt, ⟨created, _⟩ | ⟨_, environment, _⟩⟩
    · simp at created
    · rw [attempt, if_pos idle] at accepted
      cases accepted
      exact refusedRequest_spared attempt environment _

theorem beginEnvironment_spared (accepted :
      Ledger.beginEnvironment db copy kind (.given operation) none .unknown
          generated now =
        .ok (next, request, false)) :
    Spared db next := by
  simp only [Ledger.beginEnvironment] at accepted
  split at accepted
  · rename_i found _
    simp only [Except.ok.injEq] at accepted
    have answers := congrArg (fun result => result.2.2) accepted
    have kept := beginRequested_spared (Eq.refl db.attempt)
        (.inl ⟨Eq.refl false, Eq.refl db.environment⟩) answers
    rw [accepted] at kept
    exact kept
  · simp only [reduceCtorEq, false_and, ↓reduceIte, and_false] at accepted
    split at accepted
    · simp at accepted
    · rename_i requested event created result
      simp only [Except.ok.injEq] at accepted
      have answers := congrArg (fun result => result.2.2) accepted
      obtain ⟨attempt, registered⟩ := requestEnvironment_shape result
      have kept := beginRequested_spared attempt registered answers
      rw [accepted] at kept
      exact kept

theorem refuseEnvironment_spared
    (accepted : refuseEnvironment db copy kind operation generated now =
        .ok (next, reply)) :
    Spared db next := by
  simp only [refuseEnvironment] at accepted
  split at accepted
  · cases accepted
    exact refuseRequested_spared rfl (.inl ⟨Eq.refl false, rfl⟩)
  · split at accepted
    · simp at accepted
    · rename_i result
      cases accepted
      obtain ⟨attempt, registered⟩ := requestEnvironment_shape result
      exact refuseRequested_spared attempt registered

theorem requestedCheck_spared {run : Option Uuid}
    (accepted : Checks.markAndRequest db opId generated now requestedAt =
        .ok (next, run)) :
    Spared db next := by
  simp only [Checks.markAndRequest] at accepted
  split at accepted
  · split at accepted
    · simp at accepted
    · rename_i result
      cases accepted
      have written := (requestCheck_untouched result).spared
      refine Spared.trans ?_ written
      exact .ofAttempt (.ofColumns rfl (.inl rfl)) rfl
  · cases accepted
    exact .ofSame rfl rfl

theorem tryMarkCheck_spared {run : Option Uuid} (accepted :
      Checks.tryMarkAttemptCheckRunning db opId generated now requestedAt =
        .ok (next, run)) :
    Spared db next := by
  simp only [Checks.tryMarkAttemptCheckRunning] at accepted
  split at accepted
  · simp at accepted
  · exact requestedCheck_spared accepted
  · split_ifs at accepted
    · cases accepted
      exact .ofSame rfl rfl
    · exact requestedCheck_spared accepted

theorem beginCheck_spared {runId : Uuid} {started : Bool} (accepted :
      Ledger.beginCheck db runId now = .ok (next, execution, started)) :
    Spared db next := by
  simp only [Ledger.beginCheck] at accepted
  split at accepted
  · simp at accepted
  · split at accepted
    · cases accepted
      exact .ofSame rfl rfl
    · cases accepted
      exact .ofSame rfl rfl

theorem markCheckError_spared
    (db : Db) (runId : Uuid) (error : String) (now : Timestamp) :
    Spared db (Checks.markBackgroundCheckError db runId error now) := by
  simp only [Checks.markBackgroundCheckError]
  split_ifs
  · exact .ofSame rfl rfl
  · exact .ofSame rfl rfl
  · exact .ofAttempt (.ofColumns rfl (.inl rfl)) rfl

theorem saveDraft_spared (db : Db) (post : Views.AnswerPost) :
    Spared db (Views.saveDraft db post).1 := by
  simp only [Views.saveDraft]
  split
  · exact .ofSame rfl rfl
  · exact .ofAttempt (.ofColumns rfl (.inl rfl)) rfl

theorem submitForReview_spared
    {post : Views.AnswerPost} {aiAvailable answered : Bool} (accepted :
      Views.submitForReview db copy post aiAvailable generated now =
        .ok (next, answered)) :
    Spared db next := by
  simp only [Views.submitForReview] at accepted
  split at accepted
  · cases accepted
    exact .ofSame rfl rfl
  split at accepted
  · simp at accepted
  rename_i recorded _ _ result
  have submitted := (submitAnswer_untouched result).spared
  split at accepted
  · simp at accepted
  rename_i saved reviewed
  cases accepted
  have asked : Untouched recorded saved := by
    split at reviewed
    · simp only [Views.createAIReview] at reviewed
      split at reviewed
      · cases reviewed
        exact ⟨rfl, rfl⟩
      · simp at reviewed
    · cases reviewed
      exact ⟨rfl, rfl⟩
  exact (submitted.trans asked.spared).trans
    (.ofAttempt (.ofColumns rfl (.inl rfl)) rfl)

theorem saveMentorFeedback_spared
    {post : Views.MentorPost} {answer : Views.FeedbackReply} (accepted :
      Views.saveMentorFeedback db post generated now = .ok (next, answer)) :
    Spared db next := by
  simp only [Views.saveMentorFeedback] at accepted
  split at accepted
  · cases accepted
    exact .ofSame rfl rfl
  split at accepted
  · cases accepted
    exact .ofSame rfl rfl
  split at accepted
  · cases accepted
    exact .ofSame rfl rfl
  split at accepted
  · split at accepted
    · cases accepted
      exact .ofSame rfl rfl
    · simp at accepted
  · rename_i result
    have recorded := (reviewAnswer_untouched result).spared
    split at accepted
    · cases accepted
      exact recorded
    · cases accepted
      refine recorded.trans (.ofAttempt ?_ rfl)
      simp only [Views.reviewed]
      split <;> exact .ofColumns rfl (.inl rfl)

/-- A mapped result is good exactly when the result is. -/
private theorem reply_ok
    {α β : Type} {result : Except Failure α} {answer : α → β} {value : β}
    (accepted : result.map answer = .ok value) :
    ∃ inner, result = .ok inner ∧ answer inner = value := by
  cases result with
  | error failure => simp [Except.map] at accepted
  | ok inner => exact ⟨inner, rfl, by simpa [Except.map] using accepted⟩

/-- Every transaction that opens no environment keeps the one there is. -/
theorem perform_spared {transaction : Transaction}
    (idle : opensEnvironment cleanups db transaction = false)
    (accepted : perform cleanups db transaction = .ok (next, reply)) :
    Spared db next := by
  cases transaction with
  | tryMarkCheck opId generated now requestedAt =>
      obtain ⟨⟨_, _⟩, ok, same⟩ := reply_ok accepted
      cases same
      exact tryMarkCheck_spared ok
  | beginCheck runId now =>
      obtain ⟨⟨_, _, _⟩, ok, same⟩ := reply_ok accepted
      cases same
      exact beginCheck_spared ok
  | concludeCheck execution copy outcome now =>
      obtain ⟨_, ok, same⟩ := reply_ok accepted
      cases same
      exact concludeCheck_spared idle ok
  | recordDuplicate runId now | closeRaisedCheck runId now =>
      cases accepted
      exact .ofSame rfl rfl
  | markCheckError runId error now =>
      cases accepted
      exact markCheckError_spared ..
  | tryMarkEnvironment kind copy actor origin opId generated requestedAt now =>
      obtain ⟨⟨_, _⟩, ok, same⟩ := reply_ok accepted
      cases same
      exact tryMarkEnvironment_spared idle ok
  | beginEnvironment kind copy operation generated now =>
      simp only [perform] at accepted
      split at accepted
      · exact refuseEnvironment_spared accepted
      · rename_i alone
        obtain ⟨⟨_, _, begun⟩, ok, same⟩ := reply_ok accepted
        cases same
        simp only [opensEnvironment, alone, Bool.false_eq_true, ↓reduceIte,
          ok] at idle
        subst idle
        exact beginEnvironment_spared ok
  | saveLaunched kind copy operation launch now =>
      obtain ⟨_, ok, same⟩ := reply_ok accepted
      cases same
      simp only [Environments.saveLaunched] at ok
      split at ok
      · simp at ok
      · rename_i live
        simp [opensEnvironment, live] at idle
  | closeRaisedEnvironment operation now =>
      cases accepted
      exact environmentFinished_spared ..
  | markEnvironmentError kind copy error generated now =>
      simp only [perform] at accepted
      split at accepted
      · cases accepted
        exact .ofSame rfl rfl
      · obtain ⟨_, ok, same⟩ := reply_ok accepted
        cases same
        exact markEnvironmentError_spared ok
  | dispatchFailed kind copy operation error generated now =>
      have closed := environmentFinished_spared db operation
          (Ledger.interruptedFinish .dispatchError now)
      simp only [perform] at accepted
      split at accepted
      · cases accepted
        exact closed
      · obtain ⟨_, ok, same⟩ := reply_ok accepted
        cases same
        exact closed.trans (markEnvironmentError_spared ok)
  | interrupt reason now =>
      cases accepted
      exact interrupt_spared ..
  | markStuck kind copy now closedAt =>
      cases accepted
      exact markStuck_spared ..
  | submitAnswer copy clientAnswer traineeReport opId generated now =>
      obtain ⟨⟨_, _, _⟩, ok, same⟩ := reply_ok accepted
      cases same
      exact (submitAnswer_untouched ok).spared
  | reviewAnswer copy actor decision comment submissionId opId generated now =>
      obtain ⟨⟨_, _⟩, ok, same⟩ := reply_ok accepted
      cases same
      exact (reviewAnswer_untouched ok).spared
  | saveDraft post =>
      cases accepted
      exact saveDraft_spared ..
  | submitForReview copy post aiAvailable generated now =>
      obtain ⟨⟨_, _⟩, ok, same⟩ := reply_ok accepted
      cases same
      exact submitForReview_spared ok
  | cleanup copy terminalRemoved containerRemoved =>
      cases accepted
      exact cleanup_spared ..
  | saveMentorFeedback post generated now =>
      obtain ⟨⟨_, _⟩, ok, same⟩ := reply_ok accepted
      cases same
      exact saveMentorFeedback_spared ok

end TicketSandbox.Sandbox.CleanupTaskContainers
