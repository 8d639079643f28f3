import TicketSandbox.Sandbox.SystemFacts

namespace TicketSandbox.Sandbox

/-!
# No environment is left spinning

An environment that is being started or restarted has an open operation, or an
error handler that is about to save the failure.  The handler recognises its
operation as the newest requested one, and a request that was refused in the
meantime takes that place.
-/

open Runs

/-- Some environment operation has no `finished` event. -/
def Db.HasOpenOperation (db : Db) : Prop :=
  ∃ row ∈ db.environment, row.isOpen = true

/-- The transactions that close what is open for somebody else. -/
def Transaction.interrupts : Transaction → Bool
  | .interrupt .. => true
  | .markStuck .. => true
  | _ => false

/-- What one transaction can do to a spinning environment. -/
inductive SpinStep (db : Db) (transaction : Transaction) (next : Db) :
    Prop where
  | stopped (stops : next.attempt.environmentStatus.isSpinning = false)
  | requested (opens : next.HasOpenOperation)
  | raised (operation : Uuid) (now : Timestamp)
      (runs : transaction = .closeRaisedEnvironment operation now)
  | interrupted (interrupts : transaction.interrupts = true)
  | kept
      (status : next.attempt.environmentStatus = db.attempt.environmentStatus)
      (opens : db.HasOpenOperation → next.HasOpenOperation)

variable {db next : Db} {transaction : Transaction} {kind : EnvironmentKind}
  {now : Timestamp} {error : String} {opId : OperationInput}
  {generated : Uuid} {system : System} {action : Action}

namespace SpinStep

theorem ofSame
    (status : next.attempt.environmentStatus = db.attempt.environmentStatus)
    (environment : next.environment = db.environment) :
    SpinStep db transaction next := by
  refine .kept status ?_
  rintro ⟨row, member, isOpen⟩
  exact ⟨row, environment ▸ member, isOpen⟩

end SpinStep

theorem Environments.Begun.hasOpenOperation {operation : Uuid} {begun : Bool}
    (begins : Begun db kind operation now next begun)
    (opens : db.HasOpenOperation) :
    next.HasOpenOperation := by
  obtain ⟨row, member, isOpen⟩ := opens
  have inBase {base : List EnvironmentOperation}
      {request : EnvironmentOperation}
      (registered : Registered db kind operation now base request) :
      row ∈ base := by
    cases registered with
    | found _ _ _ => exact member
    | added _ => exact List.mem_append_left _ member
  have modified {base : List EnvironmentOperation}
      {change : EnvironmentOperation → EnvironmentOperation}
      (rowMember : row ∈ base)
      (keeps : ∀ row, (change row).isOpen = row.isOpen) :
      ∃ version ∈
          Rows.modify EnvironmentOperation.operationId operation change base,
        version.isOpen = true := by
    by_cases same : row.operationId = operation
    · exact ⟨change row, Rows.mem_modify.mpr ⟨row, rowMember,
        .inl ⟨same, rfl⟩⟩, (keeps row).trans isOpen⟩
    · exact ⟨row, Rows.mem_modify.mpr ⟨row, rowMember,
        .inr ⟨same, rfl⟩⟩, isOpen⟩
  cases begins with
  | duplicate registered =>
      refine modified (inBase registered) ?_
      intro row
      simp only [Ledger.noteDuplicateOperation]
      split <;> rfl
  | @refused base _ other registered otherMember different otherOpen =>
      exact ⟨other, Rows.mem_modify.mpr ⟨other, otherMember,
        .inr ⟨different, rfl⟩⟩, otherOpen⟩
  | started registered _ _ _ =>
      refine modified (inBase registered) ?_
      intro row
      simp only [Ledger.startOperation]
      split <;> rfl

theorem Environments.Failed.stopped (failed : Failed kind db error now next) :
    next.attempt.environmentStatus.isSpinning = false := by
  cases failed with
  | ignored still => exact still
  | failed _ => rfl
  | legacy _ _ _ => rfl

theorem Environments.cleanup_environmentStatus
    (db : Db) (copy : TaskAttempt) (terminalRemoved containerRemoved : Bool) :
    (cleanupAttemptEnvironment db copy terminalRemoved
        containerRemoved).attempt.environmentStatus = .idle ∨
      (cleanupAttemptEnvironment db copy terminalRemoved
          containerRemoved).attempt.environmentStatus =
        db.attempt.environmentStatus := by
  simp only [cleanupAttemptEnvironment]
  split_ifs <;> first | exact .inl rfl | exact .inr rfl

theorem Ledger.Submitted.sameEnvironment
    {clientAnswer traineeReport : Text} {submission : AnswerSubmission}
    {created : Bool} (submits :
      Submitted db clientAnswer traineeReport opId generated now next
        submission created) :
    next.attempt = db.attempt ∧ next.environment = db.environment := by
  cases submits with
  | repeated _ _ _ => exact ⟨rfl, rfl⟩
  | created _ _ _ _ => exact ⟨rfl, rfl⟩

theorem Ledger.Reviewed.sameEnvironment
    {actor : Pk} {decision : MentorDecision} {comment : Text}
    {submissionId : Option Pk} {event : Option AnswerReviewEvent} (reviews :
      Reviewed db actor decision comment submissionId opId generated now
        next event) :
    next.attempt = db.attempt ∧ next.environment = db.environment := by
  cases reviews with
  | withoutSubmission _ _ => exact ⟨rfl, rfl⟩
  | replayed _ _ _ _ _ => exact ⟨rfl, rfl⟩
  | unchanged _ _ _ _ _ _ => exact ⟨rfl, rfl⟩
  | recorded _ _ _ _ _ _ _ _ => exact ⟨rfl, rfl⟩

/-- What any transaction does to a spinning environment. -/
theorem Performed.spinStep
    {reply : Reply} (performed : Performed db transaction next reply) :
    SpinStep db transaction next := by
  cases performed with
  | tryMarkCheck marked =>
      cases marked with
      | refused => exact .ofSame rfl rfl
      | requested _ _ _ => exact .ofSame rfl rfl
  | recordDuplicate => exact .ofSame rfl rfl
  | beginCheck begun =>
      cases begun with
      | duplicate => exact .ofSame rfl rfl
      | started _ _ _ => exact .ofSame rfl rfl
  | concludeCheck _ _ _ concluded =>
      cases concluded with
      | unknown _ _ _ _ => exact .ofSame rfl rfl
      | passed _ _ _ =>
          refine .ofSame ?_ rfl
          simp only [Checks.checkPassed]
          split <;> rfl
      | failed _ _ _ => exact .ofSame rfl rfl
  | closeRaisedCheck => exact .ofSame rfl rfl
  | markCheckError marked =>
      cases marked with
      | ignored => exact .ofSame rfl rfl
      | reported _ _ _ _ => exact .ofSame rfl rfl
  | tryMarkEnvironment requested =>
      cases requested with
      | repeated => exact .ofSame rfl rfl
      | refused _ _ _ =>
          refine .kept rfl ?_
          rintro ⟨row, member, isOpen⟩
          exact ⟨row, List.mem_append_left _ member, isOpen⟩
      | won _ _ _ _ =>
          exact .requested ⟨_, List.mem_append_right _
            (List.mem_singleton_self _), rfl⟩
  | beginEnvironment begun =>
      refine .kept ?_ begun.hasOpenOperation
      cases begun <;> rfl
  | @saveLaunched kind _ _ _ _ _ _ _ _ _ =>
      refine .stopped ?_
      cases kind <;> rfl
  | closeRaisedEnvironment => exact .raised _ _ rfl
  | markEnvironmentError failed => exact .stopped failed.stopped
  | dispatchFailed failed => exact .stopped failed.stopped
  | interrupt => exact .interrupted rfl
  | markStuck => exact .interrupted rfl
  | submitAnswer submits =>
      have same := submits.sameEnvironment
      exact .ofSame (congrArg _ same.1) same.2
  | reviewAnswer reviews =>
      have same := reviews.sameEnvironment
      exact .ofSame (congrArg _ same.1) same.2
  | saveDraft =>
      simp only [Views.saveDraft]
      split <;> exact .ofSame rfl rfl
  | submitForReview reviewed =>
      cases reviewed with
      | fixed _ => exact .ofSame rfl rfl
      | submitted recorded _ _ _ submits _ =>
          have same := submits.sameEnvironment
          refine .ofSame ?_ same.2
          simp [Views.submitted, same.1]
  | @cleanup copy terminalRemoved containerRemoved =>
      rcases Environments.cleanup_environmentStatus db copy terminalRemoved
          containerRemoved with
        idle | same
      · refine .stopped ?_
        rw [idle]
        rfl
      · exact .ofSame same rfl
  | saveMentorFeedback feedback =>
      cases feedback with
      | rejected _ => exact .ofSame rfl rfl
      | alreadySaved _ _ reviews =>
          have same := reviews.sameEnvironment
          exact .ofSame (congrArg _ same.1) same.2
      | saved recorded _ _ reviews =>
          have same := reviews.sameEnvironment
          refine .ofSame ?_ same.2
          simp only [Views.reviewed, same.1]
          split <;> rfl

/-- The thread runs the error handler of an environment operation. -/
def Thread.handles : Thread → Bool
  | .environmentFailed .. => true
  | .environmentMark .. => true
  | _ => false

/-- The thread delivers an environment operation, or handles its error. -/
def Thread.delivers : Thread → Bool
  | .environmentBegin .. => true
  | .launching .. => true
  | .environmentRaised .. => true
  | thread => thread.handles

/-- No delivery and no error handler of an environment is under way. -/
def System.Quiet (system : System) : Prop :=
  ∀ thread, (system.threads thread).delivers = false

/--
No step closes operations for somebody else, and an error handler that looks
for its operation finds it as the newest requested one.
-/
structure HandlersAreNewest (system : System) (action : Action) : Prop where
  uninterrupted : ∀ transaction, system.transaction? action = some transaction →
      transaction.interrupts = false
  newest : ∀ thread kind operation, action = .read thread →
      system.threads thread = .environmentFailed kind operation →
      system.db.latestRequest.map EnvironmentOperation.operationId =
        some operation

/-- A spinning environment has an open operation or an error handler. -/
def System.Settled (system : System) : Prop :=
  system.db.attempt.environmentStatus.isSpinning = true →
    system.db.HasOpenOperation ∨
      ∃ thread, (system.threads thread).handles = true

theorem Thread.handles_read
    {thread next : Thread} (handles : thread.handles = true) (newest :
      ∀ kind operation, thread = .environmentFailed kind operation →
        db.latestRequest.map EnvironmentOperation.operationId = some operation)
    (reads : thread.read? db = some next) :
    next.handles = true := by
  cases thread with
  | environmentFailed kind operation =>
      rw [read?, if_pos (newest kind operation rfl)] at reads
      cases reads
      rfl
  | environmentMark kind copy => simp [read?] at reads
  | _ => simp [Thread.handles] at handles

theorem Thread.handles_transaction
    {thread : Thread} {supply : Supply} (handles : thread.handles = true)
    (runs : thread.transaction? db supply = some transaction) :
    ∃ kind copy error generated now,
      transaction = .markEnvironmentError kind copy error generated now := by
  cases thread with
  | environmentMark kind copy =>
      cases supply <;> cases runs
      exact ⟨_, _, _, _, _, rfl⟩
  | environmentFailed kind operation => simp [transaction?] at runs
  | _ => simp [Thread.handles] at handles

theorem Db.perform_markEnvironmentError
    {copy : TaskAttempt} {failure : Failure} (raised :
      db.perform (.markEnvironmentError kind copy error generated now) =
        .error failure) :
    db.attempt.environmentStatus.isSpinning = false := by
  cases spinning : db.attempt.environmentStatus.isSpinning with
  | false => rfl
  | true =>
      simp [perform, Environments.markEnvironmentError, spinning, Except.map]
        at raised

namespace System.Settled

theorem ofHandler
    {next : System} {thread : Nat} (stepped : Stepped system action next)
    (handles : (system.threads thread).handles = true)
    (different : action.thread? ≠ some thread) :
    next.Settled := by
  intro _
  refine .inr ⟨thread, ?_⟩
  rw [stepped.threads_of_other different]
  exact handles

theorem quietStep {next : System} {moved : Nat} (settled : system.Settled)
    (stepped : Stepped system action next) (moves : action.thread? = some moved)
    (same : next.db = system.db)
    (handler : next.db.attempt.environmentStatus.isSpinning = true →
      (system.threads moved).handles = true →
      (next.threads moved).handles = true) :
    next.Settled := by
  intro spinning
  rcases settled (same ▸ spinning) with opens | ⟨thread, handles⟩
  · exact .inl (same ▸ opens)
  · by_cases own : thread = moved
    · subst own
      exact .inr ⟨thread, handler spinning handles⟩
    · refine ofHandler stepped handles ?_ spinning
      rw [moves]
      exact fun equal => own (Option.some.inj equal).symm

theorem performed {system next : System} {reply : Reply}
    (settled : system.Settled) (stepped : Stepped system action next)
    (performed : Performed system.db transaction next.db reply)
    (uninterrupted : transaction.interrupts = false) (raised :
      ∀ operation now, transaction = .closeRaisedEnvironment operation now →
        ∃ thread, (next.threads thread).handles = true)
    (handler : ∀ thread, action.thread? = some thread →
        (system.threads thread).handles = true →
        ∃ kind copy error generated now,
          transaction = .markEnvironmentError kind copy error generated now) :
    next.Settled := by
  intro spinning
  cases performed.spinStep with
  | stopped stops =>
      rw [stops] at spinning
      contradiction
  | requested opens => exact .inl opens
  | raised operation now runs => exact .inr (raised operation now runs)
  | interrupted interrupts =>
      rw [uninterrupted] at interrupts
      contradiction
  | kept status opens =>
      rw [status] at spinning
      rcases settled spinning with isOpen | ⟨thread, handles⟩
      · exact .inl (opens isOpen)
      · by_cases moves : action.thread? = some thread
        · obtain ⟨_, _, _, _, _, rfl⟩ := handler thread moves handles
          cases performed with
          | markEnvironmentError failed =>
              rw [← status, failed.stopped] at spinning
              contradiction
        · exact ofHandler stepped handles moves (status ▸ spinning)

/-- Every permitted step keeps the invariant. -/
theorem step
    {coverage : AttemptCoverage} {next : System} (settled : system.Settled)
    (agrees : system.Agrees coverage) (newest : HandlersAreNewest system action)
    (stepped : Stepped system action next) :
    next.Settled := by
  have moves := stepped
  cases stepped with
  | entered idle =>
      refine settled.quietStep moves rfl rfl ?_
      intro _ handles
      simp [idle, Thread.handles] at handles
  | @read thread target reads =>
      refine settled.quietStep moves rfl rfl ?_
      intro _ handles
      rw [setThread_same]
      exact Thread.handles_read handles
        (fun kind operation => newest.newest thread kind operation rfl)
        reads
  | @raised thread outside =>
      refine settled.quietStep moves rfl rfl ?_
      intro _ handles
      cases stands : system.threads thread <;>
        simp [stands, Thread.handles, Thread.runsOutside] at handles outside
  | @called transaction db reply service unused ok =>
      refine settled.performed moves
        (agrees.db.perform (Transaction.grounded_of_isService service) ok)
        (newest.uninterrupted transaction (by
          simp [System.transaction?, service])) ?_ ?_
      · rintro operation now rfl
        simp [Transaction.isService] at service
      · intro thread isMoved
        simp [Action.thread?] at isMoved
  | callRaised _ _ => exact settled
  | @committed thread supply transaction db reply runs unused ok =>
      refine settled.performed moves
        (agrees.db.perform ((agrees.grounded thread).transaction runs) ok)
        (newest.uninterrupted transaction runs) ?_ ?_
      · rintro operation now rfl
        refine ⟨thread, ?_⟩
        rw [setThread_same]
        unfold Thread.transaction? at runs
        split at runs <;> cases runs
        rename_i stands
        rw [stands]
        rfl
      · intro other isMoved handles
        obtain rfl := Option.some.inj isMoved
        exact Thread.handles_transaction handles runs
  | @commitRaised thread supply transaction failure runs failed =>
      refine settled.quietStep moves rfl rfl ?_
      intro spinning handles
      obtain ⟨_, _, _, _, _, rfl⟩ := Thread.handles_transaction handles runs
      have stopped := Db.perform_markEnvironmentError failed
      simp [stopped] at spinning

end System.Settled

/--
While every error handler finds its own operation as the newest requested one,
a spinning environment with no delivery under way has an open operation.
-/
theorem reachable_spinning_hasOpen
    (identity : AttemptIdentity) (task : Task) (isStaff : Pk → Bool)
    (digest : Text → Text → Nat) (foreign : ForeignIds) {serial : Pk}
    (positive : 0 < serial) {actions : List Action} {last : System} (run :
      Run System.step? HandlersAreNewest (System.created
          (Db.created identity task isStaff digest foreign serial))
        actions last)
    (quiet : last.Quiet)
    (spinning : last.db.attempt.environmentStatus.isSpinning = true) :
    last.db.HasOpenOperation := by
  obtain ⟨coverage, _, _, initially⟩ :=
    System.Agrees.created identity task isStaff digest foreign positive
  have settled :=
    run.invariant (fun system => system.Agrees coverage ∧ system.Settled)
      (fun system action next newest stepped held =>
        ⟨held.1.step (System.step?_stepped stepped),
          held.2.step held.1 newest (System.step?_stepped stepped)⟩)
      ⟨initially, by
        intro starts
        simp [System.created, Db.created, TaskAttempt.created,
          EnvironmentStatus.isSpinning] at starts⟩
  rcases settled.2 spinning with opens | ⟨thread, handles⟩
  · exact opens
  · have calm := quiet thread
    unfold Thread.delivers at calm
    split at calm <;> simp [handles] at calm

/-- Threads that were never used deliver nothing. -/
theorem quiet_of_run {permitted : System → Action → Prop} {first last : System}
    {actions : List Action} (count : Nat)
    (run : Run System.step? permitted first actions last)
    (initially : ∀ thread, first.threads thread = .idle) (moves :
      ∀ action ∈ actions, ∀ thread,
        action.thread? = some thread → thread < count)
    (quiet : ∀ thread < count, (last.threads thread).delivers = false) :
    last.Quiet := by
  intro thread
  by_cases among : thread < count
  · exact quiet thread among
  · have untouched := System.threads_of_run run fun action member moved =>
        among (moves action member thread moved)
    rw [untouched, initially]
    rfl

/-- A failed start whose handler ran, and a second start on its way. -/
def startedAgain : List Action :=
  [.enter 0 (.environmentTask .start (.given 40) true),
    .commit 0 (.clocks 0 1 1),
    .enter 1 (.deliverEnvironment .start 40),
    .commit 1 (.clocks 0 2 2),
    .raise 1,
    .commit 1 (.clock 3),
    .read 1,
    .commit 1 (.error "Docker" 0 4),
    .enter 2 (.environmentTask .start (.given 41) true),
    .commit 2 (.clocks 0 5 5)]

/-- The check behind `HandlersAreNewest`. -/
def handlersAreNewest (system : System) (action : Action) : Bool :=
  (system.transaction? action).all (fun transaction =>
    !transaction.interrupts) &&
  match action with
  | .read thread =>
      match system.threads thread with
      | .environmentFailed _ operation =>
          decide (system.db.latestRequest.map EnvironmentOperation.operationId =
              some operation)
      | _ => true
  | _ => true

theorem handlersAreNewest_sound
    (checked : handlersAreNewest system action = true) :
    HandlersAreNewest system action := by
  simp only [handlersAreNewest, Bool.and_eq_true] at checked
  refine ⟨?_, ?_⟩
  · intro transaction runs
    simpa [runs] using checked.1
  · rintro thread kind operation rfl stands
    simpa [stands] using checked.2

theorem reachable_spinning_hasOpen_startedAgain :
    ∃ last : System,
      last.Quiet ∧ last.db.attempt.environmentStatus = .starting ∧
        last.db.HasOpenOperation := by
  have run : Run System.step? HandlersAreNewest System.firstAttempt startedAgain
        (after (guarded handlersAreNewest System.step?)
          System.firstAttempt startedAgain) :=
    run_after_guarded (fun _ _ => handlersAreNewest_sound) (by decide)
  have quiet := quiet_of_run 3 run (fun _ => rfl) (by decide) (by decide)
  exact ⟨_, quiet, by decide,
      reachable_spinning_hasOpen _ _ _ _ _ (by decide) run quiet
        (by decide)⟩

/--
Two requests read the attempt before either is committed; the delivery of the
first one raises, and its handler finds the refused second one.
-/
def raisedUnderRefused : List Action :=
  [.enter 0 (.environmentTask .start (.given 40) true),
    .enter 1 (.environmentTask .start (.given 41) true),
    .commit 0 (.clocks 0 1 1),
    .commit 1 (.clocks 0 2 2),
    .enter 2 (.deliverEnvironment .start 40),
    .commit 2 (.clocks 0 3 3),
    .raise 2,
    .commit 2 (.clock 4),
    .read 2]

/-- The environment spins with nothing open and nothing under way. -/
theorem raisedUnderRefused_spins :
    ∃ last : System, Run System.step? anything System.firstAttempt
          raisedUnderRefused last ∧
        last.Quiet ∧
        last.db.attempt.environmentStatus = .starting ∧
        ¬ last.db.HasOpenOperation := by
  have run : Run System.step? anything System.firstAttempt raisedUnderRefused
        (after System.step? System.firstAttempt raisedUnderRefused) :=
    run_after (fun _ _ _ => trivial) (by decide)
  refine ⟨_, run, quiet_of_run 3 run (fun _ => rfl) (by decide) (by decide),
      by decide, ?_⟩
  have closed : ∀ row ∈ (after System.step? System.firstAttempt
            raisedUnderRefused).db.environment,
        row.isOpen = false := by
    decide
  rintro ⟨row, member, isOpen⟩
  rw [closed row member] at isOpen
  contradiction

end TicketSandbox.Sandbox
