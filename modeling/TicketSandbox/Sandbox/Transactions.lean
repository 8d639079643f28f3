import TicketSandbox.Library.Runs
import TicketSandbox.Sandbox.Views

namespace TicketSandbox.Sandbox.DetectStuckAttempts

/-!
# The watchdog command

`detect_stuck_attempts` selects stuck attempts with one query per kind, then
locks, re-checks and closes each of them.  The functions below are its two
queries and its two per-attempt transactions.
-/

/-- Which of the two loops of the command handles the attempt. -/
inductive StuckKind where
  | environment
  | check

variable (kind : StuckKind)

/-- `ENVIRONMENT_STUCK_MESSAGE` and `CHECK_STUCK_MESSAGE`. -/
def stuckMessage : String :=
  match kind with
  | .environment =>
      "Запуск окружения был прерван. " ++
        "Возможная причина — перезапуск сервиса или ошибка фонового " ++
        "процесса. Попробуй запустить окружение заново."
  | .check =>
      "Автопроверка была прервана. " ++
        "Возможная причина — перезапуск сервиса или ошибка фонового " ++
        "процесса. Попробуй запустить проверку заново."

/-- `stuck_deadline`. -/
def stuckDeadline (now minutes : Timestamp) : Timestamp :=
  now - 60 * 1000000 * minutes

/-- A column that is set to an instant before the deadline. -/
def isBefore (instant : Option Timestamp) (deadline : Timestamp) : Bool :=
  instant.any fun instant => decide (instant < deadline)

variable (attempt : TaskAttempt)

/-- The filter of `stuck_environment_attempts`. -/
def isStuckEnvironment (deadline : Timestamp) : Bool :=
  attempt.environmentStatus.isSpinning &&
    isBefore attempt.environmentStartedAt deadline &&
    attempt.technicalPassedAt.isNone &&
    decide (attempt.status ≠ .passed)

/-- The filter of `stuck_check_attempts`. -/
def isStuckCheck (deadline : Timestamp) : Bool :=
  decide (attempt.checkStatus = .running) &&
    isBefore attempt.checkStartedAt deadline &&
    attempt.technicalPassedAt.isNone &&
    decide (attempt.status ≠ .passed) &&
    !attempt.environmentStatus.isSpinning &&
    decide (attempt.environmentStatus ≠ .error)

/-- The attempt is in the query result of the loop. -/
def isStuck (deadline : Timestamp) : Bool :=
  match kind with
  | .environment => isStuckEnvironment attempt deadline
  | .check => isStuckCheck attempt deadline

/-- The re-check under the row lock. -/
def stillStuck (db : Db) : Bool :=
  !db.technicalPassed &&
    match kind with
    | .environment => db.attempt.environmentStatus.isSpinning
    | .check => decide (db.attempt.checkStatus = .running)

/--
The columns that the environment loop saves.  The check columns are among
them when the queried copy was running a check.
-/
def environmentStuck
    (attempt copy : TaskAttempt) (now : Timestamp) : TaskAttempt :=
  let stuck :=
    { attempt with
      environmentStatus := .error
      environmentFinishedAt := some now
      status := .failed
      stuckReason := .environment
      lastCheckOutput := stuckMessage .environment }
  if copy.checkStatus = .running then
    { stuck with checkStatus := .error, checkFinishedAt := some now }
  else
    stuck

/-- The columns that the check loop saves. -/
def checkStuck (now : Timestamp) : TaskAttempt :=
  { attempt with
    checkStatus := .error
    checkFinishedAt := some now
    status := .failed
    stuckReason := .check
    lastCheckOutput := stuckMessage .check }

/--
One round of `mark_stuck_environment_attempts` or
`mark_stuck_check_attempts`: lock, re-check, interrupt and save.  `now` was
read when the command began, `closedAt` is read while closing.
-/
def markStuckAttempt
    (db : Db) (copy : TaskAttempt) (now closedAt : Timestamp) : Db :=
  if stillStuck kind db then
    let closed := Ledger.interrupt db .watchdog closedAt
    { closed with
      attempt :=
        match kind with
        | .environment => environmentStuck closed.attempt copy now
        | .check => checkStuck closed.attempt now }
  else
    db

end TicketSandbox.Sandbox.DetectStuckAttempts

namespace TicketSandbox.Sandbox

/-!
# The transactions on one attempt

Every write of the modelled code happens in a transaction that holds the row
lock of the attempt, so transactions on one attempt never overlap.  This
module lists them as data, together with what each one draws from outside,
and gives the state machine they drive.
-/

/-- A committed or raised transaction, with its arguments. -/
inductive Transaction where
  | tryMarkCheck (opId : OperationInput) (generated : Uuid)
      (now requestedAt : Timestamp)
  | recordDuplicate (runId : Uuid) (now : Timestamp)
  | beginCheck (runId : Uuid) (now : Timestamp)
  | concludeCheck (execution : Option Uuid) (copy : TaskAttempt)
      (outcome : Checks.CheckerOutcome) (now : Timestamp)
  | closeRaisedCheck (runId : Uuid) (now : Timestamp)
  | markCheckError (runId : Uuid) (error : String) (now : Timestamp)
  | tryMarkEnvironment (kind : EnvironmentKind) (copy : TaskAttempt)
      (actor : Option Pk) (origin : Origin) (opId : OperationInput)
      (generated : Uuid) (requestedAt now : Timestamp)
  | beginEnvironment (kind : EnvironmentKind) (copy : TaskAttempt)
      (operation : Uuid) (generated : Uuid) (now : Timestamp)
  | saveLaunched (kind : EnvironmentKind) (copy : TaskAttempt)
      (operation : Uuid) (launch : Environments.Launch) (now : Timestamp)
  | closeRaisedEnvironment (operation : Uuid) (now : Timestamp)
  | markEnvironmentError (kind : EnvironmentKind) (copy : TaskAttempt)
      (error : String) (generated : Uuid) (now : Timestamp)
  | dispatchFailed (kind : EnvironmentKind) (copy : TaskAttempt)
      (operation : Uuid) (error : String) (generated : Uuid) (now : Timestamp)
  | interrupt (reason : Reason) (now : Timestamp)
  | markStuck (kind : DetectStuckAttempts.StuckKind) (copy : TaskAttempt)
      (now closedAt : Timestamp)
  | submitAnswer (copy : TaskAttempt) (clientAnswer traineeReport : Text)
      (opId : OperationInput) (generated : Uuid) (now : Timestamp)
  | reviewAnswer (copy : TaskAttempt) (actor : Pk) (decision : MentorDecision)
      (comment : Text) (submissionId : Option Pk) (opId : OperationInput)
      (generated : Uuid) (now : Timestamp)
  | saveDraft (post : Views.AnswerPost)
  | submitForReview (copy : TaskAttempt) (post : Views.AnswerPost)
      (aiAvailable : Bool) (generated : Uuid) (now : Timestamp)
  | cleanup (copy : TaskAttempt) (terminalRemoved containerRemoved : Bool)
  | saveMentorFeedback (post : Views.MentorPost) (generated : Uuid)
      (now : Timestamp)

namespace Transaction

/-- The transactions that other code may call as a whole. -/
def isService : Transaction → Bool
  | .tryMarkCheck .. => true
  | .markCheckError .. => true
  | .tryMarkEnvironment .. => true
  | .markEnvironmentError .. => true
  | .dispatchFailed .. => true
  | .interrupt .. => true
  | .submitAnswer .. => true
  | .reviewAnswer .. => true
  | .saveMentorFeedback .. => true
  | _ => false

/-- The identity that `uuid4` would generate in the transaction. -/
def generated? : Transaction → Option Uuid
  | .tryMarkCheck _ generated _ _ => some generated
  | .tryMarkEnvironment _ _ _ _ _ generated _ _ => some generated
  | .beginEnvironment _ _ _ generated _ => some generated
  | .markEnvironmentError _ _ _ generated _ => some generated
  | .dispatchFailed _ _ _ _ generated _ => some generated
  | .submitAnswer _ _ _ _ generated _ => some generated
  | .reviewAnswer _ _ _ _ _ _ generated _ => some generated
  | .submitForReview _ _ _ generated _ => some generated
  | .saveMentorFeedback _ generated _ => some generated
  | _ => none

end Transaction

/-- What a transaction tells the code that ran it. -/
inductive Reply where
  | done
  | marked (operation : Option Uuid)
  | begun (started : Bool)
  | decided (accepted : Bool)
  | feedback (reply : Views.FeedbackReply)

namespace Db

/-- Run one transaction: its database and reply, or what it raised. -/
def perform
    (db : Db) (transaction : Transaction) : Except Failure (Db × Reply) :=
  match transaction with
  | .tryMarkCheck opId generated now requestedAt =>
      (Checks.tryMarkAttemptCheckRunning db opId generated now
        requestedAt).map fun (next, run) => (next, .marked run)
  | .recordDuplicate runId now =>
      .ok (Ledger.recordDuplicateCheck db runId now, .done)
  | .beginCheck runId now =>
      (Ledger.beginCheck db runId now).map
        fun (next, _, started) => (next, .begun started)
  | .concludeCheck execution copy outcome now =>
      (Checks.concludeCheck db execution copy outcome now).map
        fun next => (next, .done)
  | .closeRaisedCheck runId now =>
      .ok (Checks.closeRaisedCheck db runId now, .done)
  | .markCheckError runId error now =>
      .ok (Checks.markBackgroundCheckError db runId error now, .done)
  | .tryMarkEnvironment kind copy actor origin opId generated requestedAt now =>
      (Environments.tryMarkEnvironment kind db copy actor origin opId
        generated requestedAt now).map fun (next, operation) =>
          (next, .marked operation)
  | .beginEnvironment kind copy operation generated now =>
      (Ledger.beginEnvironment db copy kind (.given operation) none
        .unknown generated now).map
        fun (next, _, started) => (next, .begun started)
  | .saveLaunched kind copy operation launch now =>
      (Environments.saveLaunched kind db copy operation launch now).map
        fun next => (next, .done)
  | .closeRaisedEnvironment operation now =>
      .ok (Environments.closeRaisedEnvironment db operation now, .done)
  | .markEnvironmentError kind copy error generated now =>
      (Environments.markEnvironmentError kind db copy error generated
        now).map fun next => (next, .done)
  | .dispatchFailed kind copy operation error generated now =>
      (Environments.dispatchFailed kind db copy operation error generated
        now).map fun next => (next, .done)
  | .interrupt reason now => .ok (Ledger.interrupt db reason now, .done)
  | .markStuck kind copy now closedAt =>
      .ok
        (DetectStuckAttempts.markStuckAttempt kind db copy now closedAt, .done)
  | .submitAnswer copy clientAnswer traineeReport opId generated now =>
      (Ledger.submitAnswer db copy clientAnswer traineeReport opId generated
        now).map fun (next, _, created) => (next, .decided created)
  | .reviewAnswer copy actor decision comment submissionId opId generated now =>
      (Ledger.reviewAnswer db copy actor decision comment submissionId opId
        generated now).map fun (next, _) => (next, .done)
  | .saveDraft post =>
      let (next, saved) := Views.saveDraft db post
      .ok (next, .decided saved)
  | .submitForReview copy post aiAvailable generated now =>
      (Views.submitForReview db copy post aiAvailable generated now).map
        fun (next, accepted) => (next, .decided accepted)
  | .cleanup copy terminalRemoved containerRemoved =>
      .ok (Environments.cleanupAttemptEnvironment db copy terminalRemoved
          containerRemoved,
          .done)
  | .saveMentorFeedback post generated now =>
      (Views.saveMentorFeedback db post generated now).map
        fun (next, reply) => (next, .feedback reply)

/-- No row of any attempt carries the identity. -/
def isUnused (db : Db) (id : Uuid) : Bool :=
  !(db.checks.any fun row => decide (row.runId = id)) &&
    !(db.environment.any fun row => decide (row.operationId = id)) &&
    !(db.submissions.any fun row => decide (row.operationId = id)) &&
    !(db.reviews.any fun row => decide (row.operationId = id)) &&
    !db.foreign.runs.contains id &&
    !db.foreign.environment.contains id &&
    !db.foreign.submissions.contains id &&
    !db.foreign.reviews.contains id

/-- A generated identity is one that no row carries yet. -/
def drawsUnused (db : Db) (transaction : Transaction) : Bool :=
  transaction.generated?.all db.isUnused

end Db

end TicketSandbox.Sandbox

namespace TicketSandbox.Sandbox

/-!
# Requests, workers and the watchdog around one attempt

Each request, worker delivery and watchdog round is a thread.  Between two
transactions a thread holds only its own in-memory copies, so any number of
threads interleave on the shared database.  A queue may deliver an operation
any number of times and at any moment: a delivery is simply a new thread.
-/

/-- Where a thread stands between its transactions. -/
inductive Thread where
  | idle
  | returned
  | checkDuplicate (runId : Uuid)
  | checkBegin (runId : Uuid)
  | checkRead (runId : Uuid) (execution : Option Uuid)
  | checking (runId : Uuid) (execution : Option Uuid) (copy : TaskAttempt)
  | checkRaised (runId : Uuid)
  | checkFailed (runId : Uuid)
  | environmentBegin (kind : EnvironmentKind) (operation : Uuid)
      (copy : TaskAttempt)
  | launching (kind : EnvironmentKind) (operation : Uuid) (copy : TaskAttempt)
  | environmentRaised (kind : EnvironmentKind) (operation : Uuid)
  | environmentFailed (kind : EnvironmentKind) (operation : Uuid)
  | environmentMark (kind : EnvironmentKind) (copy : TaskAttempt)
  | environmentOpened (kind : EnvironmentKind) (opId : OperationInput)
      (copy : TaskAttempt)
  | checkOpened (opId : OperationInput)
  | answerOpened (post : Views.AnswerPost) (copy : TaskAttempt)
  | answerLooked (post : Views.AnswerPost) (copy : TaskAttempt)
  | answerDrafted (post : Views.AnswerPost) (copy : TaskAttempt)
  | answerSubmitted (copy : TaskAttempt)
  | stuckFound (kind : DetectStuckAttempts.StuckKind) (copy : TaskAttempt)
      (now minutes : Timestamp)

/-- What the outside supplies to the next transaction of a thread. -/
inductive Supply where
  | clock (now : Timestamp)
  | clocks (generated : Uuid) (now requestedAt : Timestamp)
  | outcome (outcome : Checks.CheckerOutcome) (now : Timestamp)
  | launch (launch : Environments.Launch) (now : Timestamp)
  | error (error : String) (generated : Uuid) (now : Timestamp)
  | reviewer (aiAvailable : Bool) (generated : Uuid) (now : Timestamp)
  | removed (terminal container : Bool)

namespace Thread

/-- The next transaction of a thread, when it is about to run one. -/
def transaction? (db : Db) : Thread → Supply → Option Transaction
  | .checkDuplicate runId, .clock now => some (.recordDuplicate runId now)
  | .checkBegin runId, .clock now => some (.beginCheck runId now)
  | .checking _ execution copy, .outcome outcome now =>
      some (.concludeCheck execution copy outcome now)
  | .checkRaised runId, .clock now => some (.closeRaisedCheck runId now)
  | .checkFailed runId, .error error _ now =>
      some (.markCheckError runId error now)
  | .environmentBegin kind operation copy, .clocks generated now _ =>
      some (.beginEnvironment kind copy operation generated now)
  | .launching kind operation copy, .launch launch now =>
      some (.saveLaunched kind copy operation launch now)
  | .environmentRaised _ operation, .clock now =>
      some (.closeRaisedEnvironment operation now)
  | .environmentMark kind copy, .error error generated now =>
      some (.markEnvironmentError kind copy error generated now)
  | .environmentOpened kind opId copy, .clocks generated now requestedAt =>
      some (.tryMarkEnvironment kind copy (some db.identity.userId) .trainee
          opId generated requestedAt now)
  | .checkOpened opId, .clocks generated now requestedAt =>
      some (.tryMarkCheck opId generated now requestedAt)
  | .answerLooked post _, .clock _ => some (.saveDraft post)
  | .answerDrafted post copy, .reviewer aiAvailable generated now =>
      some (.submitForReview copy post aiAvailable generated now)
  | .answerSubmitted copy, .removed terminal container =>
      some (.cleanup copy terminal container)
  | .stuckFound kind copy now _, .clock closedAt =>
      some (.markStuck kind copy now closedAt)
  | _, _ => none

/-- Where a thread stands after its transaction committed. -/
def committed (db : Db) : Thread → Reply → Thread
  | .checkDuplicate runId, _ => .checkRead runId none
  | .checkBegin runId, .begun true => .checkRead runId (some runId)
  | .checkRaised runId, _ => .checkFailed runId
  | .environmentBegin kind operation _, .begun true =>
      .launching kind operation db.attempt
  | .environmentRaised kind operation, _ => .environmentFailed kind operation
  | .answerLooked post copy, .decided true =>
      if Views.isComplete post then .answerDrafted post copy else .returned
  | .answerDrafted _ copy, .decided true =>
      if copy.isCurrent then .answerSubmitted copy else .returned
  | _, _ => .returned

/-- Where a thread stands after its transaction, or its own code, raised. -/
def raised : Thread → Thread
  | .checkBegin runId => .checkFailed runId
  | .checking runId none _ => .checkFailed runId
  | .checking _ (some runId) _ => .checkRaised runId
  | .environmentBegin kind operation _ => .environmentFailed kind operation
  | .launching kind operation _ => .environmentRaised kind operation
  | _ => .returned

/-- The thread runs code outside any transaction that may raise. -/
def runsOutside : Thread → Bool
  | .checking .. => true
  | .launching .. => true
  | _ => false

/-- Where a reading step leads, for the threads that are about to read. -/
def read? (db : Db) : Thread → Option Thread
  | .checkRead runId execution =>
      if db.technicalPassed then some .returned
      else some (.checking runId execution db.attempt)
  | .environmentFailed kind operation =>
      if db.latestRequest.map EnvironmentOperation.operationId =
          some operation then
        some (.environmentMark kind db.attempt)
      else
        some .returned
  | .answerOpened post copy =>
      if Views.priorSubmission db post then some .returned
      else some (.answerLooked post copy)
  | _ => none

end Thread

/-- What a new thread begins with; it reads the attempt without a lock. -/
inductive Entry where
  | deliverCheck (runId : Uuid)
  | deliverEnvironment (kind : EnvironmentKind) (operation : Uuid)
  | environmentTask (kind : EnvironmentKind) (opId : OperationInput)
      (isAvailable : Bool)
  | checkTask (post : Views.AnswerPost) (isAvailable : Bool)
  | queryStuck (kind : DetectStuckAttempts.StuckKind) (now minutes : Timestamp)

/-- Where a new thread stands after its first reads. -/
def Entry.enter (db : Db) : Entry → Thread
  | .deliverCheck runId =>
      if db.task.observed then .returned
      else if db.technicalPassed then .checkDuplicate runId
      else .checkBegin runId
  | .deliverEnvironment kind operation =>
      .environmentBegin kind operation db.attempt
  | .environmentTask kind opId isAvailable =>
      if opId = .malformed then
        .returned
      else if Views.environmentAllowed kind db isAvailable then
        .environmentOpened kind opId db.attempt
      else
        .returned
  | .checkTask post isAvailable =>
      if post.operationId = .malformed then
        .returned
      else
        match Views.checkTaskRoute db isAvailable with
        | .refused => .returned
        | .answer => .answerOpened post db.attempt
        | .check => .checkOpened post.operationId
  | .queryStuck kind now minutes =>
      if DetectStuckAttempts.isStuck kind db.attempt
          (DetectStuckAttempts.stuckDeadline now minutes) then
        .stuckFound kind db.attempt now minutes
      else
        .returned

/-- The shared database and the local state of every thread. -/
structure System where
  db : Db
  threads : Nat → Thread

/-- The steps of the system. -/
inductive Action where
  | call (transaction : Transaction)
  | enter (thread : Nat) (entry : Entry)
  | read (thread : Nat)
  | raise (thread : Nat)
  | commit (thread : Nat) (supply : Supply)

namespace System

/-- Move one thread. -/
def setThread (system : System) (thread : Nat) (next : Thread) : System :=
  { system with
    threads := fun other =>
      if other = thread then next else system.threads other }

/-- The transaction that an action runs, if it runs one. -/
def transaction? (system : System) : Action → Option Transaction
  | .call transaction =>
      if transaction.isService then some transaction else none
  | .commit thread supply =>
      (system.threads thread).transaction? system.db supply
  | _ => none

/-- The next state, or `none` where the action cannot happen. -/
def step? (system : System) (action : Action) : Option System :=
  match action with
  | .enter thread entry =>
      match system.threads thread with
      | .idle => some (system.setThread thread (entry.enter system.db))
      | _ => none
  | .read thread =>
      ((system.threads thread).read? system.db).map (system.setThread thread)
  | .raise thread =>
      if (system.threads thread).runsOutside then
        some (system.setThread thread (system.threads thread).raised)
      else
        none
  | .call _ =>
      match system.transaction? action with
      | none => none
      | some transaction =>
          if system.db.drawsUnused transaction then
            match system.db.perform transaction with
            | .ok (db, _) => some { system with db := db }
            | .error _ => some system
          else
            none
  | .commit thread _ =>
      match system.transaction? action with
      | none => none
      | some transaction =>
          if system.db.drawsUnused transaction then
            match system.db.perform transaction with
            | .ok (db, reply) =>
                some ({ system with db := db }.setThread thread
                    ((system.threads thread).committed db reply))
            | .error _ =>
                some (system.setThread thread (system.threads thread).raised)
          else
            none

/-- The system right after the attempt was created: no thread has begun. -/
def created (db : Db) : System where
  db := db
  threads := fun _ => .idle

end System

end TicketSandbox.Sandbox
