import TicketSandbox.Sandbox.AnswersRecorded

namespace TicketSandbox.Sandbox

/-!
# What a transaction does to the reviewed answer

The status, the answer texts and the mentor's decision of an attempt repeat
what the ledger knows of its newest submission.  Few transactions of a credit
attempt write them while the attempt is on review or passed.
-/

/-- The columns that repeat the newest submission and its review. -/
structure SameProjection (old new : TaskAttempt) : Prop where
  status : new.status = old.status
  clientAnswer : new.clientAnswer = old.clientAnswer
  traineeReport : new.traineeReport = old.traineeReport
  mentorDecision : new.mentorDecision = old.mentorDecision

/-- The attempt waits for its review or has passed it. -/
def TaskAttempt.IsReviewed (attempt : TaskAttempt) : Prop :=
  attempt.status = .onReview ∨ attempt.status = .passed

/-- The ledger functions called by themselves, outside the form views. -/
def Transaction.isDirect : Transaction → Bool
  | .submitAnswer .. => true
  | .reviewAnswer .. => true
  | _ => false

/-- What one transaction on a reviewed credit attempt can do. -/
inductive ProjectionStep (db : Db) (transaction : Transaction) (next : Db) :
    Prop where
  | kept (attempt : SameProjection db.attempt next.attempt)
      (submissions : next.submissions = db.submissions)
      (reviews : next.reviews = db.reviews)
  | reopened (status : ¬ next.attempt.IsReviewed)
  | direct (isDirect : transaction.isDirect = true)
      (attempt : next.attempt = db.attempt)
  | submitted {copy : TaskAttempt} {post : Views.AnswerPost}
      {aiAvailable : Bool} {generated : Uuid} {now : Timestamp}
      {submission : AnswerSubmission} {created : Bool}
      (runs :
        transaction = .submitForReview copy post aiAvailable generated now)
      (editable : Views.answerIsFixed db = false)
      (recorded : Db)
      (submits : Ledger.Submitted db post.clientAnswer post.traineeReport
          post.operationId generated now recorded submission created)
      (attempt : next.attempt = Views.submitted db.attempt post now)
      (submissions : next.submissions = recorded.submissions)
      (reviews : next.reviews = recorded.reviews)
  | reviewed {post : Views.MentorPost} {generated : Uuid} {now : Timestamp}
      {event : Option AnswerReviewEvent}
      (runs : transaction = .saveMentorFeedback post generated now)
      (admitted : Views.admits db post = true)
      (recorded : Db)
      (review : Ledger.Reviewed db post.actor post.mentorDecision
          (strip post.feedback) post.submissionId post.operationId generated
          now recorded event)
      (attempt : next.attempt = Views.reviewed db.attempt post now)
      (submissions : next.submissions = recorded.submissions)
      (reviews : next.reviews = recorded.reviews)

variable {db next : Db} {transaction : Transaction} {generated : Uuid}
  {now : Timestamp}

namespace ProjectionStep

theorem ofStatus (status : Status) (written : next.attempt.status = status)
    (notOnReview : status ≠ .onReview) (notPassed : status ≠ .passed) :
    ProjectionStep db transaction next := by
  refine .reopened ?_
  rintro (onReview | passed)
  · exact notOnReview (written.symm.trans onReview)
  · exact notPassed (written.symm.trans passed)

end ProjectionStep

theorem Environments.cleanup_projection
    (db : Db) (copy : TaskAttempt) (terminalRemoved containerRemoved : Bool) :
    SameProjection db.attempt (cleanupAttemptEnvironment db copy terminalRemoved
        containerRemoved).attempt := by
  constructor <;> simp only [cleanupAttemptEnvironment] <;> split_ifs <;> rfl

theorem Views.alreadySaved_reviews
    {recorded : Db} {post : MentorPost} {event : Option AnswerReviewEvent}
    (duplicate : duplicateReview db post = true) (review :
      Ledger.Reviewed db post.actor post.mentorDecision
        (strip post.feedback) post.submissionId post.operationId generated
        now recorded event) :
    recorded.attempt = db.attempt ∧ recorded.submissions = db.submissions ∧
      recorded.reviews = db.reviews := by
  cases review with
  | withoutSubmission _ _ => exact ⟨rfl, rfl, rfl⟩
  | replayed _ _ _ _ _ => exact ⟨rfl, rfl, rfl⟩
  | unchanged _ _ _ _ _ _ => exact ⟨rfl, rfl, rfl⟩
  | recorded _ _ _ parsed own isNew _ _ =>
      exfalso
      cases given : post.operationId with
      | absent => simp [duplicateReview, given] at duplicate
      | malformed => simp [duplicateReview, given] at duplicate
      | given op =>
          rw [given, Ledger.operationId, Except.ok.injEq] at parsed
          subst parsed
          simp only [duplicateReview, given, own, Bool.false_or,
            List.any_eq_true, decide_eq_true_eq] at duplicate
          obtain ⟨row, member, sameId⟩ := duplicate
          exact isNew row member sameId

theorem Ledger.Submitted.sameAttempt
    {clientAnswer traineeReport : Text} {opId : OperationInput}
    {submission : AnswerSubmission} {created : Bool} (submits :
      Submitted db clientAnswer traineeReport opId generated now next
        submission created) :
    next.attempt = db.attempt :=
  submits.sameChecks.1

theorem Checks.Concluded.projectionStep
    {runId : Uuid} {copy : TaskAttempt} (awaits : awaitsAnswer db = true)
    (concluded : Concluded db runId copy now next) :
    ProjectionStep db transaction next := by
  cases concluded with
  | unknown _ _ _ _ => exact .ofStatus .failed rfl (by simp) (by simp)
  | passed _ _ _ =>
      refine .ofStatus .inProgress ?_ (by simp) (by simp)
      simp [checkPassed, awaits]
  | failed _ _ _ => exact .ofStatus .failed rfl (by simp) (by simp)

theorem Environments.Failed.projectionStep {kind : EnvironmentKind}
    {error : String} (failed : Failed kind db error now next) :
    ProjectionStep db transaction next := by
  cases failed with
  | ignored _ => exact .kept ⟨rfl, rfl, rfl, rfl⟩ rfl rfl
  | failed _ => exact .ofStatus .failed rfl (by simp) (by simp)
  | legacy _ _ _ => exact .ofStatus .failed rfl (by simp) (by simp)

theorem DetectStuckAttempts.markStuckAttempt_projectionStep (kind : StuckKind)
    (db : Db) (copy : TaskAttempt) (now closedAt : Timestamp) :
    ProjectionStep db transaction
      (markStuckAttempt kind db copy now closedAt) := by
  simp only [markStuckAttempt]
  split
  · refine .ofStatus .failed ?_ (by simp) (by simp)
    cases kind with
    | environment =>
        simp only [environmentStuck]
        split <;> rfl
    | check => rfl
  · exact .kept ⟨rfl, rfl, rfl, rfl⟩ rfl rfl

/-- Every transaction on an attempt that awaits answers is such a step. -/
theorem Performed.projectionStep
    {reply : Reply} (awaits : Checks.awaitsAnswer db = true)
    (performed : Performed db transaction next reply) :
    ProjectionStep db transaction next := by
  cases performed with
  | tryMarkCheck marked =>
      cases marked with
      | refused => exact .kept ⟨rfl, rfl, rfl, rfl⟩ rfl rfl
      | requested _ _ _ => exact .ofStatus .inProgress rfl (by simp) (by simp)
  | recordDuplicate => exact .kept ⟨rfl, rfl, rfl, rfl⟩ rfl rfl
  | beginCheck begun =>
      cases begun with
      | duplicate => exact .kept ⟨rfl, rfl, rfl, rfl⟩ rfl rfl
      | started _ _ _ => exact .kept ⟨rfl, rfl, rfl, rfl⟩ rfl rfl
  | concludeCheck _ _ _ concluded => exact concluded.projectionStep awaits
  | closeRaisedCheck => exact .kept ⟨rfl, rfl, rfl, rfl⟩ rfl rfl
  | markCheckError marked =>
      cases marked with
      | ignored => exact .kept ⟨rfl, rfl, rfl, rfl⟩ rfl rfl
      | reported _ _ _ _ => exact .ofStatus .failed rfl (by simp) (by simp)
  | @tryMarkEnvironment kind _ _ _ _ _ _ _ _ _ requested =>
      cases requested with
      | repeated => exact .kept ⟨rfl, rfl, rfl, rfl⟩ rfl rfl
      | refused _ _ _ => exact .kept ⟨rfl, rfl, rfl, rfl⟩ rfl rfl
      | won _ _ _ _ => cases kind <;> exact .kept ⟨rfl, rfl, rfl, rfl⟩ rfl rfl
  | beginEnvironment begun =>
      cases begun with
      | duplicate _ => exact .kept ⟨rfl, rfl, rfl, rfl⟩ rfl rfl
      | refused _ _ _ _ => exact .kept ⟨rfl, rfl, rfl, rfl⟩ rfl rfl
      | started _ _ _ _ => exact .kept ⟨rfl, rfl, rfl, rfl⟩ rfl rfl
  | @saveLaunched kind _ _ _ _ _ _ _ _ _ =>
      cases kind <;> exact .ofStatus .inProgress rfl (by simp) (by simp)
  | closeRaisedEnvironment => exact .kept ⟨rfl, rfl, rfl, rfl⟩ rfl rfl
  | markEnvironmentError failed => exact failed.projectionStep
  | dispatchFailed failed =>
      cases failed with
      | ignored _ => exact .kept ⟨rfl, rfl, rfl, rfl⟩ rfl rfl
      | failed _ => exact .ofStatus .failed rfl (by simp) (by simp)
      | legacy _ _ _ => exact .ofStatus .failed rfl (by simp) (by simp)
  | interrupt => exact .kept ⟨rfl, rfl, rfl, rfl⟩ rfl rfl
  | markStuck => exact DetectStuckAttempts.markStuckAttempt_projectionStep ..
  | submitAnswer submits => exact .direct rfl submits.sameAttempt
  | reviewAnswer reviews => exact .direct rfl reviews.sameChecks.1
  | saveDraft =>
      simp only [Views.saveDraft]
      split
      · exact .kept ⟨rfl, rfl, rfl, rfl⟩ rfl rfl
      · rename_i editable
        refine .reopened ?_
        simpa [Views.answerIsFixed, TaskAttempt.IsReviewed] using editable
  | submitForReview reviewed =>
      cases reviewed with
      | fixed _ => exact .kept ⟨rfl, rfl, rfl, rfl⟩ rfl rfl
      | submitted recorded _ _ editable submits _ =>
          exact .submitted rfl editable recorded submits
            (by rw [submits.sameAttempt]) rfl rfl
  | cleanup => exact .kept (Environments.cleanup_projection ..) rfl rfl
  | saveMentorFeedback feedback =>
      cases feedback with
      | rejected _ => exact .kept ⟨rfl, rfl, rfl, rfl⟩ rfl rfl
      | alreadySaved _ duplicate reviews =>
          obtain ⟨attempt, submissions, same⟩ :=
            Views.alreadySaved_reviews duplicate reviews
          exact .kept (attempt ▸ ⟨rfl, rfl, rfl, rfl⟩) submissions same
      | saved recorded _ admitted reviews =>
          exact .reviewed rfl admitted recorded reviews
            (by rw [reviews.sameChecks.1]) rfl rfl

end TicketSandbox.Sandbox
