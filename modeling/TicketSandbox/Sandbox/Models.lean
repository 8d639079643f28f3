import TicketSandbox.Library.Strip

namespace TicketSandbox.Sandbox

/-!
# Operational models of the sandbox

The mutable side of the data model: one trainee's attempt at one task, the
rows of recorded check runs, and the values that reach them from forms.  The
columns that no modelled function reads or writes are left out.
-/

/-- Primary keys, handed out in increasing order. -/
abbrev Pk := Nat

/-- UUID values, used as operation and run identities. -/
abbrev Uuid := Nat

/-- Instants of the server clock. -/
abbrev Timestamp := Int

/-- Form and column text, character by character. -/
abbrev Text := List Char

/-- The characters that Python's `str.strip` removes. -/
def isSpace (character : Char) : Bool :=
  let code := character.toNat
  (9 ≤ code && code ≤ 13) || (28 ≤ code && code ≤ 32) || code == 133 ||
    code == 160 ||
    code == 5760 ||
    (8192 ≤ code && code ≤ 8202) ||
    code == 8232 ||
    code == 8233 ||
    code == 8239 ||
    code == 8287 ||
    code == 12288

/-- Python's `str.strip`. -/
def strip (text : Text) : Text :=
  Strip.strip isSpace text

/-- `TaskAttempt.Status`. -/
inductive Status where
  | new
  | inProgress
  | onReview
  | failed
  | passed
  deriving Repr, DecidableEq

/-- `TaskAttempt.CheckStatus`. -/
inductive CheckStatus where
  | idle
  | running
  | passed
  | failed
  | error
  deriving Repr, DecidableEq

/-- `TaskAttempt.EnvironmentStatus`. -/
inductive EnvironmentStatus where
  | idle
  | starting
  | ready
  | restarting
  | error
  deriving Repr, DecidableEq

/-- An environment is being started or restarted. -/
def EnvironmentStatus.isSpinning : EnvironmentStatus → Bool
  | .starting => true
  | .restarting => true
  | _ => false

/-- `TaskAttempt.StuckReason`. -/
inductive StuckReason where
  | none
  | environment
  | check

/-- `TaskAttempt.MentorDecision`. -/
inductive MentorDecision where
  | notReviewed
  | approved
  | needsRevision
  deriving Repr, DecidableEq

/-- The columns that identify an attempt; no modelled function writes them. -/
structure AttemptIdentity where
  pk : Pk
  userId : Pk
  taskId : Pk
  attemptNumber : Nat
  deriving Repr, DecidableEq

/-- `TaskAttempt.is_credit_attempt`. -/
def AttemptIdentity.isCreditAttempt (identity : AttemptIdentity) : Bool :=
  identity.attemptNumber == 1

/-- `TaskAttempt.is_extra_attempt`. -/
def AttemptIdentity.isExtraAttempt (identity : AttemptIdentity) : Bool :=
  decide (1 < identity.attemptNumber)

/--
The task of the attempt together with its queue.  `checkerFile` is the hash of
the checker file, absent when there is no such file, and `observed` is what
`observation_config.enabled_for` answers for this attempt.
-/
structure Task where
  slug : String
  queueSlug : String
  requiresManualReview : Bool
  aiReviewContext : Bool
  checkerFile : Option String
  observed : Bool

/-- A row of `TaskAttempt`, and equally an in-memory copy of one. -/
structure TaskAttempt where
  isCurrent : Bool
  status : Status
  attemptsCount : Nat
  restartCount : Nat
  startedAt : Option Timestamp
  finishedAt : Option Timestamp
  technicalPassedAt : Option Timestamp
  checkStatus : CheckStatus
  checkStartedAt : Option Timestamp
  checkFinishedAt : Option Timestamp
  environmentStatus : EnvironmentStatus
  environmentStartedAt : Option Timestamp
  environmentFinishedAt : Option Timestamp
  stuckReason : StuckReason
  lastCheckOutput : String
  traineeReport : Text
  clientAnswer : Text
  containerId : String
  containerName : String
  shellCommand : String
  terminalContainerName : String
  terminalUrl : String
  terminalPort : Option Nat
  mentorFeedback : Text
  mentorDecision : MentorDecision
  mentorReviewedBy : Option Pk
  mentorReviewedAt : Option Timestamp
  mentorFeedbackSeenAt : Option Timestamp

/-- The row that `TaskAttempt.objects.create` inserts for a new attempt. -/
def TaskAttempt.created : TaskAttempt where
  isCurrent := true
  status := .new
  attemptsCount := 0
  restartCount := 0
  startedAt := none
  finishedAt := none
  technicalPassedAt := none
  checkStatus := .idle
  checkStartedAt := none
  checkFinishedAt := none
  environmentStatus := .idle
  environmentStartedAt := none
  environmentFinishedAt := none
  stuckReason := .none
  lastCheckOutput := ""
  traineeReport := []
  clientAnswer := []
  containerId := ""
  containerName := ""
  shellCommand := ""
  terminalContainerName := ""
  terminalUrl := ""
  terminalPort := none
  mentorFeedback := []
  mentorDecision := .notReviewed
  mentorReviewedBy := none
  mentorReviewedAt := none
  mentorFeedbackSeenAt := none

/-- `CheckRun.Result`. -/
inductive CheckRunResult where
  | passed
  | failed
  deriving Repr, DecidableEq

/-- A row of `CheckRun`. -/
structure CheckRun where
  pk : Pk
  result : CheckRunResult
  output : String
  exitCode : Int

/--
`get_technical_evidence(attempt).is_completed`: the attempt carries its
success time, or a recorded run passed with exit code zero.
-/
def technicalPassed (attempt : TaskAttempt) (runs : List CheckRun) : Bool :=
  attempt.technicalPassedAt.isSome ||
    runs.any fun run => decide (run.result = .passed ∧ run.exitCode = 0)

/-- A row of `AIReview`, with the columns that the review views touch. -/
structure AIReview where
  pk : Pk
  clientAnswer : Text
  mentorDecision : Option MentorDecision
  mentorReviewedBy : Option Pk
  mentorReviewedAt : Option Timestamp

/-- An optional operation identity as it arrives from a form or a caller. -/
inductive OperationInput where
  | absent
  | malformed
  | given (id : Uuid)
  deriving Repr, DecidableEq

/-- What a modelled function can raise. -/
inductive Failure where
  | permissionDenied
  | invalidOperationId
  | operationIdConflict
  | executionMissing
  | executionClosed
  | resetRequired
  | environmentClosed
  | notReviewedAnswer
  | submissionConflict
  | foreignSubmission
  | staleSubmission
  | draftNotSubmitted
  | reviewConflict
  | staffRequired
  | submissionIdentityMismatch
  | submittedTextRequired
  | reviewChainRequired
  | sourceContentChanged
  | integrityError
  | aiReviewerError

/-- The failures raised as Django's `ValidationError`, with their texts. -/
def Failure.validationMessage? : Failure → Option String
  | .invalidOperationId => some "Invalid operation ID."
  | .operationIdConflict => some "Operation ID conflict."
  | .executionClosed => some "Execution already closed; late result rejected."
  | .resetRequired =>
      some "An existing environment must use the reset operation."
  | .environmentClosed => some "Environment operation already closed."
  | .notReviewedAnswer =>
      some "This attempt is not submitting a reviewed answer."
  | .submissionConflict => some "Submission operation conflict."
  | .foreignSubmission => some "Submission does not belong to this attempt."
  | .staleSubmission => some "Stale or foreign submission version."
  | .draftNotSubmitted =>
      some ("Current draft is not the submitted version; " ++
        "wait for a new submission.")
  | .reviewConflict => some "Review operation conflict."
  | .staffRequired => some "Only an authorized staff actor records a review."
  | .submissionIdentityMismatch => some "Submission identity mismatch."
  | .submittedTextRequired => some "Review must refer to the submitted text."
  | .reviewChainRequired =>
      some "Review requires the current submission and correction chain."
  | .sourceContentChanged => some "Повторный ID источника с другим содержимым."
  | .permissionDenied => none
  | .executionMissing => none
  | .integrityError => none
  | .aiReviewerError => none

/-- The failure is a `ValidationError`, which the form views catch. -/
def Failure.isValidationError (failure : Failure) : Bool :=
  failure.validationMessage?.isSome

end TicketSandbox.Sandbox
