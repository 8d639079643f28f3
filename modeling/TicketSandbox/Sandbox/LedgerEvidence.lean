import Mathlib.Data.List.Dedup
import TicketSandbox.Sandbox.LedgerModels

namespace TicketSandbox.Sandbox.LedgerEvidence

/-!
# The ledger evidence of an attempt

`_attempt_evidence` reads the ledger of one attempt and lists every reason not
to trust it.  It is the specification that the modelled services have to keep
satisfied, written as the code computes it.
-/

/-- The reasons that `_attempt_evidence` can report for a stored attempt. -/
inductive EvidenceReason where
  | historyNotRecordedFromCreation
  | identityMismatch
  | ledgerGap
  | checkStartMissing
  | executionPending
  | checkOutcomeUnknown
  | unregisteredExecution
  | checkOrdinalsMissing
  | environmentOriginUnknown
  | resetActorMismatch
  | environmentPending
  | environmentOutcomeUnknown
  | resetOriginUnknown
  | reviewChainInvalid
  | submissionOrdinalsMissing
  | technicalEvidenceOutsideLedger
  | checkCountMismatch
  | resetCountMismatch
  | checkRunDetailsMismatch
  | checkRunMutated
  | submittedTextMismatch
  | reviewProjectionMismatch
  deriving Repr, DecidableEq

/-- The text of a reason. -/
def EvidenceReason.text : EvidenceReason → String
  | .historyNotRecordedFromCreation => "history_not_recorded_from_creation"
  | .identityMismatch => "identity_mismatch"
  | .ledgerGap => "ledger_gap"
  | .checkStartMissing => "check_start_missing"
  | .executionPending => "execution_pending"
  | .checkOutcomeUnknown => "check_outcome_unknown"
  | .unregisteredExecution => "unregistered_execution"
  | .checkOrdinalsMissing => "check_ordinals_missing"
  | .environmentOriginUnknown => "environment_origin_unknown"
  | .resetActorMismatch => "reset_actor_mismatch"
  | .environmentPending => "environment_pending"
  | .environmentOutcomeUnknown => "environment_outcome_unknown"
  | .resetOriginUnknown => "reset_origin_unknown"
  | .reviewChainInvalid => "review_chain_invalid"
  | .submissionOrdinalsMissing => "submission_ordinals_missing"
  | .technicalEvidenceOutsideLedger => "technical_evidence_outside_ledger"
  | .checkCountMismatch => "check_count_mismatch"
  | .resetCountMismatch => "reset_count_mismatch"
  | .checkRunDetailsMismatch => "check_run_details_mismatch"
  | .checkRunMutated => "check_run_mutated"
  | .submittedTextMismatch => "submitted_text_mismatch"
  | .reviewProjectionMismatch => "review_projection_mismatch"

/-- The stored text of a gap's reason. -/
def gapText : GapReason → String
  | .unregisteredCheckRequest => "unregistered_check_request"
  | .unregisteredEnvironmentRequest => "unregistered_environment_request"
  | .legacyEnvironmentDelivery => "legacy_environment_delivery"
  | .reviewWithoutSubmission => "review_without_submission"
  | .reviewVersionUnspecified => "review_version_unspecified"
  | .unsupportedUpdate => "unsupported_update"

/-- `reasons.append` under a condition. -/
def listed (condition : Prop) [Decidable condition]
    (reason : EvidenceReason) : List EvidenceReason :=
  if condition then [reason] else []

variable (coverage : Option AttemptCoverage)

/-- A row that was copied from an attempt the coverage is not about. -/
def isForeign (userId taskId : Pk) (attemptNumber : Nat) : Bool :=
  coverage.any fun row =>
    decide ((userId, taskId, attemptNumber) ≠
        (row.userId, row.taskId, row.attemptNumber))

/-- What the end of an execution, or its absence, contributes. -/
def outcomeReasons : Option CheckFinished → List EvidenceReason
  | none => [.executionPending]
  | some finish =>
      listed (finish.result = .unknown ∧
          ¬ (finish.failureClass = .infrastructure ∧
            finish.checkerStarted = some false))
        .checkOutcomeUnknown

/-- What one execution contributes to the reasons. -/
def executionReasons
    (execution : TechnicalCheckExecution) : List EvidenceReason :=
  listed (execution.finished.bind CheckFinished.checkerStarted = some true ∧
        execution.started = none)
      .checkStartMissing ++
    listed (isForeign coverage execution.userId execution.taskId
        execution.attemptNumber = true)
      .identityMismatch ++
    outcomeReasons execution.finished ++
    listed (execution.source ≠ .service) .unregisteredExecution

/-- What the end of an operation, or its absence, contributes. -/
def endReasons : Option EnvironmentFinished → List EvidenceReason
  | none => [.environmentPending]
  | some finish => listed (finish.outcome = .unknown) .environmentOutcomeUnknown

/-- What one environment request contributes to the reasons. -/
def requestReasons (request : EnvironmentOperation) : List EvidenceReason :=
  listed (isForeign coverage request.userId request.taskId
        request.attemptNumber = true)
      .identityMismatch ++
    listed (request.origin = .unknown) .environmentOriginUnknown ++
    listed (request.origin = .trainee ∧ request.actorId ≠ some request.userId)
      .resetActorMismatch ++
    endReasons request.finished ++
    listed (request.kind = .reset ∧ request.origin = .unknown)
      .resetOriginUnknown

variable (db : Db)

/-- The reviews of a submission in the order of their primary keys. -/
def orderedReviews (submissionId : Pk) : List AnswerReviewEvent :=
  Rows.ordered AnswerReviewEvent.pk (db.reviewsOf submissionId)

/-- The links of a chain of reviews, each judged by the one before it. -/
def chainReasons :
    Option AnswerReviewEvent → List AnswerReviewEvent → List EvidenceReason
  | _, [] => []
  | previous, event :: rest =>
      listed (event.supersedes ≠ previous.map AnswerReviewEvent.pk ∨
            event.kind ≠
              if previous.isSome then .correction else .decision)
          .reviewChainInvalid ++
        chainReasons (some event) rest

/-- What one submission contributes to the reasons. -/
def submissionReasons (submission : AnswerSubmission) : List EvidenceReason :=
  listed (isForeign db.coverage submission.userId submission.taskId
        submission.attemptNumber = true)
      .identityMismatch ++
    chainReasons none (orderedReviews db submission.pk)

/-- The executions in the order of their ordinals. -/
def orderedChecks : List TechnicalCheckExecution :=
  Rows.ordered TechnicalCheckExecution.ordinal db.checks

/-- The submissions in the order of their ordinals. -/
def orderedSubmissions : List AnswerSubmission :=
  Rows.ordered AnswerSubmission.ordinal db.submissions

/-- The finished events that name a check run, with the run they name. -/
def namedRuns : List (Pk × CheckFinished) :=
  (orderedChecks db).filterMap fun execution =>
    execution.finished.bind fun finish =>
      (finish.checkRunId.filter (· ≠ 0)).map fun pk => (pk, finish)

/-- The dictionary `runs`: the last event that names a run stands for it. -/
def runFact? (pk : Pk) : Option CheckFinished :=
  ((namedRuns db).reverse.find? fun entry => entry.1 = pk).map Prod.snd

/-- The resets that the ledger records as successful. -/
def successfulResets : List EnvironmentOperation :=
  db.environment.filter EnvironmentOperation.isSuccessfulReset

/-- `coverage.initial_counts`, by default zero. -/
def initialCounts : Nat × Nat :=
  match db.coverage with
  | some coverage => (coverage.initialChecks, coverage.initialResets)
  | none => (0, 0)

/-- A recorded run differs from the event that names it. -/
def isMutated (run : CheckRun) (fact : CheckFinished) : Bool :=
  decide (some run.exitCode ≠ fact.exitCode ∨
      run.result ≠ if fact.result = .passed then .passed else .failed)

/-- What the stored runs contribute to the reasons. -/
def runReasons : List EvidenceReason :=
  listed (¬ ((∀ run ∈ db.checkRuns, (runFact? db run.pk).isSome = true) ∧
        ∀ entry ∈ namedRuns db,
          (db.checkRuns.any fun run => run.pk = entry.1) = true))
      .checkRunDetailsMismatch ++
    listed ((db.checkRuns.any fun run =>
          (runFact? db run.pk).any (isMutated run)) = true)
      .checkRunMutated

/-- The newest submission against the columns of a reviewed attempt. -/
def projectionReasons : List EvidenceReason :=
  match (orderedSubmissions db).getLast? with
  | none => []
  | some latest =>
      if db.attempt.status = .onReview ∨ db.attempt.status = .passed then
        listed ((strip latest.clientAnswer, strip latest.traineeReport) ≠
              (db.attempt.clientAnswer, db.attempt.traineeReport))
            .submittedTextMismatch ++
          listed (db.attempt.mentorDecision ≠
              ((orderedReviews db latest.pk).getLast?.map
                AnswerReviewEvent.decision).getD .notReviewed)
            .reviewProjectionMismatch
      else
        []

/-- What the mutable attempt contributes to the reasons. -/
def attemptReasons : List EvidenceReason :=
  listed (db.technicalPassed = true ∧ ¬ (db.checks.any fun execution =>
          decide (execution.finished.map CheckFinished.result =
              some .passed)) = true)
      .technicalEvidenceOutsideLedger ++
    listed (db.attempt.attemptsCount ≠ db.checks.length + (initialCounts db).1)
      .checkCountMismatch ++
    listed (db.attempt.restartCount ≠
        (successfulResets db).length + (initialCounts db).2)
      .resetCountMismatch ++
    runReasons db ++
    projectionReasons db

/-- The reasons of `_attempt_evidence`, in the order they are found. -/
def reasons : List EvidenceReason :=
  listed (db.coverage.map AttemptCoverage.origin ≠ some .creation)
      .historyNotRecordedFromCreation ++
    listed (isForeign db.coverage db.identity.userId db.identity.taskId
        db.identity.attemptNumber = true)
      .identityMismatch ++
    listed (db.gaps ≠ []) .ledgerGap ++
    (orderedChecks db).flatMap (executionReasons db.coverage) ++
    listed ((orderedChecks db).map TechnicalCheckExecution.ordinal ≠
        List.range' 1 db.checks.length)
      .checkOrdinalsMissing ++
    db.environment.flatMap (requestReasons db.coverage) ++
    (orderedSubmissions db).flatMap (submissionReasons db) ++
    listed ((orderedSubmissions db).map AnswerSubmission.ordinal ≠
        List.range' 1 db.submissions.length)
      .submissionOrdinalsMissing ++
    attemptReasons db

/-- The text begins with one of the given words. -/
def startsWith (words : List String) (text : String) : Bool :=
  words.any fun word => word.isPrefixOf text

/-- The prefixes of the reasons that concern the checks. -/
def checkPrefixes : List String :=
  ["check_", "execution_", "technical_", "unregistered_check",
    "unregistered_execution"]

/-- The prefixes of the reasons that concern the resets. -/
def resetPrefixes : List String :=
  ["reset_", "environment_", "legacy_environment_", "unregistered_environment_"]

/-- The prefixes of the reasons that concern the answers. -/
def answerPrefixes : List String :=
  ["review_", "submission_", "submitted_"]

/-- The reasons that concern no single axis, with the gaps among them. -/
def commonReasons (found gaps : List String) : List String :=
  let own := checkPrefixes ++ resetPrefixes ++ answerPrefixes
  (found.filter fun text => text ≠ "ledger_gap" ∧ ¬ startsWith own text) ++
    gaps.filter fun text => ¬ startsWith own text

/-- `source_axes` for the axis with the given prefixes: what taints it. -/
def axisReasons
    (prefixes : List String) (found gaps : List String) : List String :=
  commonReasons found gaps ++ (found ++ gaps).filter (startsWith prefixes)

/-- The confidence in one axis, and the reasons against it. -/
structure SourceAxis where
  isComplete : Bool
  reasons : List String

/-- One axis of `source_axes`; its reasons are sorted without repetition. -/
def sourceAxis
    (prefixes : List String) (found gaps : List String) : SourceAxis :=
  let bad := axisReasons prefixes found gaps
  { isComplete := bad.isEmpty
    reasons := bad.dedup.insertionSort (· ≤ ·) }

/-- A technical check as the evidence shows it. -/
structure TechnicalCheck where
  runId : Uuid
  ordinal : Nat
  requestedAt : Timestamp
  finished : Option CheckFinished

/-- A submission as the evidence shows it. -/
structure SubmissionEvidence where
  submissionId : Pk
  ordinal : Nat
  submittedAt : Timestamp
  digest : Nat
  decision : MentorDecision
  reviewIds : List Pk
  reviewedAt : Option Timestamp
  validReturn : Bool

/-- What `_attempt_evidence` answers. -/
structure AttemptEvidence where
  attemptId : Pk
  credit : Bool
  isComplete : Bool
  origin : Option CoverageOrigin
  reasons : List String
  checks : SourceAxis
  resets : SourceAxis
  answers : SourceAxis
  successfulResets : Option Nat
  observedSuccessfulResets : Nat
  technicalChecks : List TechnicalCheck
  firstCheck : Option TechnicalCheck
  observedFirstCheck : Option TechnicalCheck
  submissions : List SubmissionEvidence
  validReturns : Option Nat
  firstAnswerApproved : Option Bool
  technicalCompleted : Bool

/-- The evidence of one submission. -/
def submissionEvidence (submission : AnswerSubmission) : SubmissionEvidence :=
  let reviews := orderedReviews db submission.pk
  let last := reviews.getLast?
  { submissionId := submission.pk
    ordinal := submission.ordinal
    submittedAt := submission.submittedAt
    digest := submission.digest
    decision := (last.map AnswerReviewEvent.decision).getD .notReviewed
    reviewIds := reviews.map AnswerReviewEvent.pk
    reviewedAt := last.map AnswerReviewEvent.reviewedAt
    validReturn :=
      decide (last.map AnswerReviewEvent.decision = some .needsRevision) }

/-- The evidence of one execution. -/
def technicalCheck (execution : TechnicalCheckExecution) : TechnicalCheck where
  runId := execution.runId
  ordinal := execution.ordinal
  requestedAt := execution.requestedAt
  finished := execution.finished

/-- The checker of the execution is known to have started. -/
def TechnicalCheck.isPhysical (check : TechnicalCheck) : Bool :=
  decide (check.finished.bind CheckFinished.checkerStarted = some true)

/-- `_attempt_evidence`. -/
def attemptEvidence : AttemptEvidence :=
  let found := (reasons db).map EvidenceReason.text
  let gaps := db.gaps.map gapText
  let checks := sourceAxis checkPrefixes found gaps
  let resets := sourceAxis resetPrefixes found gaps
  let answers := sourceAxis answerPrefixes found gaps
  let technical := (orderedChecks db).map technicalCheck
  let first := technical.find? TechnicalCheck.isPhysical
  let traineeResets := (successfulResets db).countP fun request =>
      decide (request.origin = .trainee ∧ request.attemptNumber = 1)
  let submissions := (orderedSubmissions db).map (submissionEvidence db)
  { attemptId := db.identity.pk
    credit :=
      match db.coverage with
      | some coverage => coverage.attemptNumber == 1
      | none => db.identity.attemptNumber == 1
    isComplete := found.isEmpty
    origin := db.coverage.map AttemptCoverage.origin
    reasons := found.dedup.insertionSort (· ≤ ·)
    checks := checks
    resets := resets
    answers := answers
    successfulResets :=
      if resets.isComplete then some traineeResets else none
    observedSuccessfulResets := traineeResets
    technicalChecks := technical
    firstCheck := if checks.isComplete then first else none
    observedFirstCheck := first
    submissions := submissions
    validReturns :=
      if answers.isComplete then
        some (submissions.countP SubmissionEvidence.validReturn)
      else
        none
    firstAnswerApproved :=
      if answers.isComplete then
        some (match submissions with
            | [only] => decide (only.decision = .approved)
            | _ => false)
      else
        none
    technicalCompleted := db.technicalPassed }

end TicketSandbox.Sandbox.LedgerEvidence
