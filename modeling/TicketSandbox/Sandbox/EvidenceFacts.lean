import TicketSandbox.Sandbox.AnswersRecorded
import TicketSandbox.Sandbox.EnvironmentSteps
import TicketSandbox.Sandbox.LedgerEvidence

namespace TicketSandbox.Sandbox

/-!
# The environment ledger agrees with the attempt

The restart counter of an attempt counts exactly the resets that the ledger
records as successful, and the ledger never has two operations running.
-/

/--
The operations account for the restart counter; `initial` is the counter at
the attempt's creation.
-/
structure ResetsRecorded (initial : Nat) (db : Db) : Prop where
  uniqueOperations : db.UniqueOperations
  counted : db.attempt.restartCount =
      initial + db.environment.countP EnvironmentOperation.isSuccessfulReset
  exclusive : Phases.OneRunning EnvironmentOperation.phases db.environment

theorem EnvironmentOperation.sameOperationIds
    {added : EnvironmentOperation → EnvironmentFinished → Prop}
    {old new : List EnvironmentOperation}
    (rewritten : Phases.Rewritten EnvironmentOperation.phases added old new) :
    new.map EnvironmentOperation.operationId =
      old.map EnvironmentOperation.operationId :=
  rewritten.map_eq fun _ _ same => congrArg (fun key => key.1) same

theorem EnvironmentOperation.isSuccessfulReset_iff
    (row : EnvironmentOperation) :
    row.isSuccessfulReset = true ↔
      ∃ finish, row.finished = some finish ∧ row.kind = .reset ∧
        finish.outcome = .success := by
  cases finished : row.finished with
  | none => simp [isSuccessfulReset, finished]
  | some finish => simp [isSuccessfulReset, finished]

theorem EnvironmentOperation.isSuccessfulReset_later
    {old new : EnvironmentOperation}
    (later : Phases.Later EnvironmentOperation.phases Unsuccessful old new) :
    new.isSuccessfulReset = old.isSuccessfulReset := by
  have sameKind : new.kind = old.kind :=
    congrArg (fun key => key.2.1) later.identity
  rw [Bool.eq_iff_iff, isSuccessfulReset_iff, isSuccessfulReset_iff]
  constructor
  · rintro ⟨finish, finished, isReset, succeeded⟩
    rcases later.finishCases finished with before | ⟨_, failed⟩
    · exact ⟨finish, before, sameKind ▸ isReset, succeeded⟩
    · exact (failed succeeded).elim
  · rintro ⟨finish, finished, isReset, succeeded⟩
    exact ⟨finish, later.keepsFinish finished, sameKind ▸ isReset, succeeded⟩

variable {base : List EnvironmentOperation} {row : EnvironmentOperation}

namespace WithNew

theorem unique {environment base : List EnvironmentOperation}
    (registered : WithNew environment base)
    (unique : (environment.map EnvironmentOperation.operationId).Nodup) :
    (base.map EnvironmentOperation.operationId).Nodup := by
  cases registered with
  | same => exact unique
  | added event isNew _ _ => exact Rows.nodup_append_new unique isNew

variable {environment : List EnvironmentOperation}

theorem countP_isSuccessfulReset (registered : WithNew environment base) :
    base.countP EnvironmentOperation.isSuccessfulReset =
      environment.countP EnvironmentOperation.isSuccessfulReset := by
  cases registered with
  | same => rfl
  | added event _ _ unfinished =>
      have notCounted : event.isSuccessfulReset = false := by
        simp [EnvironmentOperation.isSuccessfulReset, unfinished]
      simp [List.countP_append, notCounted]

theorem exclusive (registered : WithNew environment base)
    (exclusive : Phases.OneRunning EnvironmentOperation.phases environment) :
    Phases.OneRunning EnvironmentOperation.phases base := by
  cases registered with
  | same => exact exclusive
  | added event _ unstarted _ =>
      exact exclusive.append (by
        simp [EnvironmentOperation.phases, unstarted])

/-- A row was there before, or it is the new one. -/
theorem mem
    (registered : WithNew environment base) (member : row ∈ environment) :
    row ∈ base := by
  cases registered with
  | same => exact member
  | added event _ _ _ => exact List.mem_append_left _ member

end WithNew

namespace ResetsRecorded

theorem created (identity : AttemptIdentity) (task : Task) (isStaff : Pk → Bool)
    (digest : Text → Text → Nat) (foreign : ForeignIds) (serial : Pk) :
    ResetsRecorded 0
      (Db.created identity task isStaff digest foreign serial) where
  uniqueOperations := List.nodup_nil
  counted := rfl
  exclusive := by
    intro row member
    cases member

variable {initial : Nat} {db next : Db}

theorem launch {now : Timestamp} (recorded : ResetsRecorded initial db)
    (member : row ∈ db.environment) (unfinished : row.finished = none)
    (environment : next.environment =
        Rows.modify EnvironmentOperation.operationId row.operationId
          (Ledger.closeOperation (Environments.launchedFinish now))
          db.environment)
    (count : next.attempt.restartCount =
        db.attempt.restartCount + if row.kind = .reset then 1 else 0) :
    ResetsRecorded initial next := by
  have later (old : EnvironmentOperation) :
      Phases.Later EnvironmentOperation.phases (fun _ _ => True) old
        (Ledger.closeOperation (Environments.launchedFinish now) old) :=
    Ledger.closeOperation_later fun _ => trivial
  have rewritten :
      Phases.Rewritten EnvironmentOperation.phases (fun _ _ => True)
        db.environment next.environment := by
    rw [environment]
    exact .modify fun old _ _ => later old
  have closedRow : Ledger.closeOperation (Environments.launchedFinish now) row =
        { row with
          finished := some (Environments.launchedFinish now) } := by
    simp [Ledger.closeOperation, unfinished]
  refine ⟨?_, ?_, ?_⟩
  · rw [Db.UniqueOperations, EnvironmentOperation.sameOperationIds rewritten]
    exact recorded.uniqueOperations
  · rw [count, recorded.counted, environment]
    by_cases isReset : row.kind = .reset
    · rw [Rows.countP_modify_flip recorded.uniqueOperations member rfl]
      · simp [isReset, Nat.add_assoc]
      · simp [EnvironmentOperation.isSuccessfulReset, unfinished]
      · rw [closedRow]
        simp [EnvironmentOperation.isSuccessfulReset, isReset,
          Environments.launchedFinish]
    · rw [Rows.countP_modify_same]
      · simp [isReset]
      · intro other otherMember sameOperation
        rw [Rows.eq_of_key recorded.uniqueOperations otherMember member
          sameOperation, closedRow]
        simp [EnvironmentOperation.isSuccessfulReset, isReset, unfinished]
  · rw [environment]
    refine recorded.exclusive.map (fun old _ => .ofModify fun _ => later old) ?_
    intro old _ started
    by_cases same : old.operationId = row.operationId
    · simpa [same, EnvironmentOperation.phases] using started
    · simpa [same] using started

theorem advance {change : EnvironmentOperation → EnvironmentOperation}
    (recorded : ResetsRecorded initial db)
    (registered : WithNew db.environment base)
    (environment : next.environment = base.map change) (later : ∀ row ∈ base,
        Phases.Later EnvironmentOperation.phases Unsuccessful row (change row))
    (starts : StartsAlone base change)
    (count : next.attempt.restartCount = db.attempt.restartCount) :
    ResetsRecorded initial next := by
  have rewritten :
      Phases.Rewritten EnvironmentOperation.phases Unsuccessful base
        next.environment :=
    ⟨change, environment, later⟩
  have unique := registered.unique recorded.uniqueOperations
  refine ⟨?_, ?_, ?_⟩
  · rw [Db.UniqueOperations, EnvironmentOperation.sameOperationIds rewritten]
    exact unique
  · have sameCount :
        (base.map change).countP EnvironmentOperation.isSuccessfulReset =
          base.countP EnvironmentOperation.isSuccessfulReset := by
      rw [List.countP_map]
      apply List.countP_congr
      intro row member
      simp [EnvironmentOperation.isSuccessfulReset_later (later row member)]
    rw [count, recorded.counted, environment, sameCount,
      registered.countP_isSuccessfulReset]
  · rw [environment]
    have exclusive := registered.exclusive recorded.exclusive
    rcases starts with noStart | ⟨operation, others, untouched⟩
    · exact exclusive.map later noStart
    · refine Phases.OneRunning.start unique ?_ untouched
      intro row member different unfinished
      have closed := others row member different
      simp [EnvironmentOperation.isOpen,
        show row.finished = none from unfinished] at closed

theorem performed {transaction : Transaction}
    {reply : Reply} (recorded : ResetsRecorded initial db)
    (performed : Performed db transaction next reply) :
    ResetsRecorded initial next := by
  cases performed.environmentStep with
  | launched row now member _ unfinished environment count =>
      exact recorded.launch member unfinished environment count
  | advanced base change registered environment later starts count =>
      exact recorded.advance registered environment later starts count

end ResetsRecorded

end TicketSandbox.Sandbox

namespace TicketSandbox.Sandbox.LedgerEvidence

/-!
# What a reported reason says about the ledger

Each reason of the evidence is reported for one kind of disagreement.  Where
the ledger and the attempt agree, the reasons for their disagreement are never
reported.
-/

/-- Each reason with the disagreement that it reports. -/
inductive Reported (db : Db) : EvidenceReason → Prop where
  | historyNotRecordedFromCreation :
      db.coverage.map AttemptCoverage.origin ≠ some .creation →
      Reported db .historyNotRecordedFromCreation
  | identityMismatch : Reported db .identityMismatch
  | ledgerGap : db.gaps ≠ [] → Reported db .ledgerGap
  | checkStartMissing (execution : TechnicalCheckExecution) :
      execution ∈ orderedChecks db →
      execution.finished.bind CheckFinished.checkerStarted = some true →
      execution.started = none →
      Reported db .checkStartMissing
  | executionPending : Reported db .executionPending
  | checkOutcomeUnknown : Reported db .checkOutcomeUnknown
  | unregisteredExecution : Reported db .unregisteredExecution
  | checkOrdinalsMissing :
      (orderedChecks db).map TechnicalCheckExecution.ordinal ≠
        List.range' 1 db.checks.length →
      Reported db .checkOrdinalsMissing
  | environmentOriginUnknown : Reported db .environmentOriginUnknown
  | resetActorMismatch : Reported db .resetActorMismatch
  | environmentPending : Reported db .environmentPending
  | environmentOutcomeUnknown : Reported db .environmentOutcomeUnknown
  | resetOriginUnknown : Reported db .resetOriginUnknown
  | reviewChainInvalid (submission : AnswerSubmission) :
      chainReasons none (orderedReviews db submission.pk) ≠ [] →
      Reported db .reviewChainInvalid
  | submissionOrdinalsMissing :
      (orderedSubmissions db).map AnswerSubmission.ordinal ≠
        List.range' 1 db.submissions.length →
      Reported db .submissionOrdinalsMissing
  | technicalEvidenceOutsideLedger : db.technicalPassed = true →
      (∀ execution ∈ db.checks,
        execution.finished.map CheckFinished.result ≠ some .passed) →
      Reported db .technicalEvidenceOutsideLedger
  | checkCountMismatch :
      db.attempt.attemptsCount ≠ db.checks.length + (initialCounts db).1 →
      Reported db .checkCountMismatch
  | resetCountMismatch : db.attempt.restartCount ≠
        (successfulResets db).length + (initialCounts db).2 →
      Reported db .resetCountMismatch
  | checkRunDetailsMismatch :
      ¬ ((∀ run ∈ db.checkRuns, (runFact? db run.pk).isSome = true) ∧
        ∀ entry ∈ namedRuns db,
          (db.checkRuns.any fun run => run.pk = entry.1) = true) →
      Reported db .checkRunDetailsMismatch
  | checkRunMutated (run : CheckRun) (fact : CheckFinished) :
      run ∈ db.checkRuns →
      runFact? db run.pk = some fact →
      isMutated run fact = true →
      Reported db .checkRunMutated
  | submittedTextMismatch (latest : AnswerSubmission) :
      (orderedSubmissions db).getLast? = some latest →
      db.attempt.status = .onReview ∨ db.attempt.status = .passed →
      (strip latest.clientAnswer, strip latest.traineeReport) ≠
        (db.attempt.clientAnswer, db.attempt.traineeReport) →
      Reported db .submittedTextMismatch
  | reviewProjectionMismatch (latest : AnswerSubmission) :
      (orderedSubmissions db).getLast? = some latest →
      db.attempt.status = .onReview ∨ db.attempt.status = .passed →
      db.attempt.mentorDecision ≠ ((orderedReviews db latest.pk).getLast?.map
          AnswerReviewEvent.decision).getD .notReviewed →
      Reported db .reviewProjectionMismatch

/-- A listed reason was listed under its condition. -/
@[simp] theorem mem_listed
    {condition : Prop} [Decidable condition] {reason found : EvidenceReason} :
    found ∈ listed condition reason ↔ condition ∧ found = reason := by
  simp only [listed]
  split <;> simp_all

variable {previous : Option AnswerReviewEvent}
  {events : List AnswerReviewEvent} {found : EvidenceReason} {db : Db}

theorem chainReasons_eq (member : found ∈ chainReasons previous events) :
    found = .reviewChainInvalid := by
  induction events generalizing previous with
  | nil => simp [chainReasons] at member
  | cons event rest inductionHypothesis =>
      simp only [chainReasons, List.mem_append, mem_listed] at member
      rcases member with ⟨_, rfl⟩ | later
      · rfl
      · exact inductionHypothesis later

theorem chainReasons_of_linked
    (linked : Chains.Linked Follows previous events) :
    chainReasons previous events = [] := by
  induction events generalizing previous with
  | nil => rfl
  | cons event rest inductionHypothesis =>
      have follows : Follows previous event := linked.1
      simp [chainReasons, listed, follows.supersedes, follows.kind,
        inductionHypothesis linked.2]

theorem executionReasons_reported {execution : TechnicalCheckExecution}
    (present : execution ∈ orderedChecks db)
    (member : found ∈ executionReasons db.coverage execution) :
    Reported db found := by
  simp only [executionReasons, List.mem_append, mem_listed] at member
  rcases member with ((⟨⟨claims, unstarted⟩, rfl⟩ | ⟨_, rfl⟩) | outcome) |
    ⟨_, rfl⟩
  · exact .checkStartMissing execution present claims unstarted
  · exact .identityMismatch
  · cases finish : execution.finished with
    | none =>
        simp only [finish, outcomeReasons, List.mem_singleton] at outcome
        exact outcome ▸ .executionPending
    | some event =>
        simp only [finish, outcomeReasons, mem_listed] at outcome
        exact outcome.2 ▸ .checkOutcomeUnknown
  · exact .unregisteredExecution

theorem requestReasons_reported {request : EnvironmentOperation}
    (member : found ∈ requestReasons db.coverage request) :
    Reported db found := by
  simp only [requestReasons, List.mem_append, mem_listed] at member
  rcases member with
    (((⟨_, rfl⟩ | ⟨_, rfl⟩) | ⟨_, rfl⟩) | ended) | ⟨_, rfl⟩
  · exact .identityMismatch
  · exact .environmentOriginUnknown
  · exact .resetActorMismatch
  · cases finish : request.finished with
    | none =>
        simp only [finish, endReasons, List.mem_singleton] at ended
        exact ended ▸ .environmentPending
    | some event =>
        simp only [finish, endReasons, mem_listed] at ended
        exact ended.2 ▸ .environmentOutcomeUnknown
  · exact .resetOriginUnknown

theorem submissionReasons_reported {submission : AnswerSubmission}
    (member : found ∈ submissionReasons db submission) :
    Reported db found := by
  simp only [submissionReasons, List.mem_append, mem_listed] at member
  rcases member with ⟨_, rfl⟩ | chained
  · exact .identityMismatch
  · rw [chainReasons_eq chained]
    exact .reviewChainInvalid submission (List.ne_nil_of_mem chained)

theorem runReasons_reported
    (member : found ∈ runReasons db) : Reported db found := by
  simp only [runReasons, List.mem_append, mem_listed] at member
  rcases member with ⟨differ, rfl⟩ | ⟨mutated, rfl⟩
  · exact .checkRunDetailsMismatch differ
  · obtain ⟨run, runMember, differs⟩ := List.any_eq_true.mp mutated
    obtain ⟨fact, isFact, mutates⟩ := (Option.any_eq_true _ _).mp differs
    exact .checkRunMutated run fact runMember isFact mutates

theorem projectionReasons_reported
    (member : found ∈ projectionReasons db) : Reported db found := by
  simp only [projectionReasons] at member
  split at member
  · simp at member
  rename_i latest isLatest
  split at member
  · rename_i reviewed
    simp only [List.mem_append, mem_listed] at member
    rcases member with ⟨differs, rfl⟩ | ⟨differs, rfl⟩
    · exact .submittedTextMismatch latest isLatest reviewed differs
    · exact .reviewProjectionMismatch latest isLatest reviewed differs
  · simp at member

theorem attemptReasons_reported
    (member : found ∈ attemptReasons db) : Reported db found := by
  simp only [attemptReasons, List.mem_append, mem_listed] at member
  rcases member with
    (((⟨⟨passed, outside⟩, rfl⟩ | ⟨differs, rfl⟩) | ⟨differs, rfl⟩) |
      runs) | projection
  · refine .technicalEvidenceOutsideLedger passed ?_
    intro execution present isPassed
    exact outside
      (List.any_eq_true.mpr ⟨execution, present, by simpa using isPassed⟩)
  · exact .checkCountMismatch differs
  · exact .resetCountMismatch differs
  · exact runReasons_reported runs
  · exact projectionReasons_reported projection

/-- Every reason is reported for something in the tables. -/
theorem reasons_reported (member : found ∈ reasons db) : Reported db found := by
  simp only [reasons, List.mem_append, List.mem_flatMap, mem_listed] at member
  rcases member with
    (((((((⟨origin, rfl⟩ | ⟨_, rfl⟩) | ⟨gaps, rfl⟩) |
      ⟨execution, present, found⟩) | ⟨differs, rfl⟩) |
        ⟨request, _, found⟩) | ⟨submission, _, found⟩) | ⟨differs, rfl⟩) | found
  · exact .historyNotRecordedFromCreation origin
  · exact .identityMismatch
  · exact .ledgerGap gaps
  · exact executionReasons_reported present found
  · exact .checkOrdinalsMissing differs
  · exact requestReasons_reported found
  · exact submissionReasons_reported found
  · exact .submissionOrdinalsMissing differs
  · exact attemptReasons_reported found

end TicketSandbox.Sandbox.LedgerEvidence
