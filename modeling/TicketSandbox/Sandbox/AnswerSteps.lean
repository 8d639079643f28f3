import TicketSandbox.Sandbox.Performed

namespace TicketSandbox.Sandbox

/-!
# What a transaction does to the answers

A transaction records at most one submission or one review.  No transaction
changes whose attempt it is, its task or its coverage.
-/

/-- What no transaction writes. -/
structure SameSubject (db next : Db) : Prop where
  identity : next.identity = db.identity
  task : next.task = db.task
  isStaff : next.isStaff = db.isStaff
  digest : next.digest = db.digest
  foreign : next.foreign = db.foreign
  coverage : next.coverage = db.coverage

namespace SameSubject

theorem refl (db : Db) : SameSubject db db :=
  ⟨rfl, rfl, rfl, rfl, rfl, rfl⟩

end SameSubject

/-- The source events as they were, or with one more technical one. -/
def TechnicalOnly (old new : List SourceEvent) : Prop :=
  new = old ∨ ∃ checkRunId, new = old ++ [.sandboxTechnical checkRunId]

/-- What one transaction can do to the submissions and their reviews. -/
inductive AnswerStep (db next : Db) : Prop where
  | kept (submissions : next.submissions = db.submissions)
      (reviews : next.reviews = db.reviews)
      (events : TechnicalOnly db.sourceEvents next.sourceEvents)
      (serial : db.serial ≤ next.serial)
  | submitted (id : Uuid) (clientAnswer traineeReport : Text) (now : Timestamp)
      (submittable : Ledger.Submittable db)
      (own : db.foreign.submissions.contains id = false)
      (isNew : ∀ row ∈ db.submissions, row.operationId ≠ id)
      (submissions : next.submissions = db.submissions ++
            [Ledger.newSubmission db id clientAnswer traineeReport now])
      (reviews : next.reviews = db.reviews)
      (events : next.sourceEvents = db.sourceEvents)
      (serial : db.serial < next.serial)
  | reviewed (submissionId : Option Pk) (submission : AnswerSubmission)
      (actor : Pk) (decision : MentorDecision) (comment : Text) (id : Uuid)
      (now : Timestamp) (current : Ledger.Current db submissionId submission)
      (staff : db.isStaff actor = true)
      (own : db.foreign.reviews.contains id = false)
      (isNew : ∀ row ∈ db.reviews, row.operationId ≠ id)
      (differs : ∀ last, (db.reviewsOf submission.pk).getLast? = some last →
          ¬ Ledger.SameContent last actor decision comment)
      (published : Ledger.Published db submission
          (Ledger.newReview db submission actor decision comment id now)
          next.sourceEvents)
      (submissions : next.submissions = db.submissions)
      (reviews : next.reviews = db.reviews ++
            [Ledger.newReview db submission actor decision comment id now])
      (serial : next.serial = db.serial + 1)

variable {db next : Db} {generated : Uuid} {now : Timestamp}

namespace AnswerStep

theorem untouched (submissions : next.submissions = db.submissions)
    (reviews : next.reviews = db.reviews)
    (events : next.sourceEvents = db.sourceEvents)
    (serial : next.serial = db.serial) :
    AnswerStep db next :=
  .kept submissions reviews (.inl events) (Nat.le_of_eq serial.symm)

theorem ofSame {other : Db} (step : AnswerStep db next)
    (submissions : other.submissions = next.submissions)
    (reviews : other.reviews = next.reviews)
    (events : other.sourceEvents = next.sourceEvents)
    (serial : other.serial = next.serial) :
    AnswerStep db other := by
  cases step with
  | kept sameSubmissions sameReviews technical grows =>
      exact .kept (submissions.trans sameSubmissions)
        (reviews.trans sameReviews) (events ▸ technical) (serial ▸ grows)
  | submitted id clientAnswer traineeReport now submittable own isNew added
      sameReviews sameEvents grows =>
      exact .submitted id clientAnswer traineeReport now submittable own
        isNew (submissions.trans added) (reviews.trans sameReviews)
        (events.trans sameEvents) (serial ▸ grows)
  | reviewed submissionId submission actor decision comment id now current
      staff own isNew differs published sameSubmissions added grows =>
      exact .reviewed submissionId submission actor decision comment id now
        current staff own isNew differs (events ▸ published)
        (submissions.trans sameSubmissions) (reviews.trans added)
        (serial.trans grows)

end AnswerStep

namespace Ledger

variable {opId : OperationInput}

theorem Submitted.answerStep
    {clientAnswer traineeReport : Text} {submission : AnswerSubmission}
    {created : Bool} (submits :
      Submitted db clientAnswer traineeReport opId generated now next
        submission created) :
    AnswerStep db next ∧ SameSubject db next := by
  cases submits with
  | repeated _ _ _ => exact ⟨.untouched rfl rfl rfl rfl, .refl db⟩
  | created submittable _ own isNew =>
      exact ⟨.submitted _ clientAnswer traineeReport now submittable own isNew
            rfl rfl rfl (Nat.lt_succ_self _),
          ⟨rfl, rfl, rfl, rfl, rfl, rfl⟩⟩

theorem Reviewed.answerStep
    {actor : Pk} {decision : MentorDecision} {comment : Text}
    {submissionId : Option Pk} {event : Option AnswerReviewEvent} (reviews :
      Reviewed db actor decision comment submissionId opId generated now
        next event) :
    AnswerStep db next ∧ SameSubject db next := by
  cases reviews with
  | withoutSubmission _ _ =>
      exact ⟨.untouched rfl rfl rfl rfl, ⟨rfl, rfl, rfl, rfl, rfl, rfl⟩⟩
  | replayed _ _ _ _ _ =>
      exact ⟨.untouched rfl rfl rfl rfl, ⟨rfl, rfl, rfl, rfl, rfl, rfl⟩⟩
  | unchanged _ _ _ _ _ _ =>
      exact ⟨.untouched rfl rfl rfl rfl, ⟨rfl, rfl, rfl, rfl, rfl, rfl⟩⟩
  | recorded current staff _ _ own isNew differs published =>
      exact ⟨.reviewed submissionId _ actor decision comment _ now current staff
            own isNew differs published rfl rfl rfl,
          ⟨rfl, rfl, rfl, rfl, rfl, rfl⟩⟩

end Ledger

theorem Environments.Failed.answerStep {kind : EnvironmentKind} {error : String}
    (failed : Failed kind db error now next) :
    AnswerStep db next ∧ SameSubject db next := by
  cases failed with
  | ignored _ => exact ⟨.untouched rfl rfl rfl rfl, .refl db⟩
  | failed _ =>
      exact ⟨.untouched rfl rfl rfl rfl, ⟨rfl, rfl, rfl, rfl, rfl, rfl⟩⟩
  | legacy _ _ _ =>
      exact ⟨.untouched rfl rfl rfl rfl, ⟨rfl, rfl, rfl, rfl, rfl, rfl⟩⟩

theorem Checks.Concluded.answerStep {runId : Uuid} {copy : TaskAttempt}
    (concluded : Concluded db runId copy now next) :
    AnswerStep db next ∧ SameSubject db next := by
  cases concluded with
  | unknown _ _ _ _ =>
      exact ⟨.untouched rfl rfl rfl rfl, ⟨rfl, rfl, rfl, rfl, rfl, rfl⟩⟩
  | passed _ events published =>
      have technical : TechnicalOnly db.sourceEvents events := by
        rcases published with same | added
        · exact .inl same
        · exact .inr ⟨_, added⟩
      exact ⟨.kept rfl rfl technical (Nat.le_succ _),
          ⟨rfl, rfl, rfl, rfl, rfl, rfl⟩⟩
  | failed _ _ _ =>
      exact ⟨.kept rfl rfl (.inl rfl) (Nat.le_succ _),
          ⟨rfl, rfl, rfl, rfl, rfl, rfl⟩⟩

theorem DetectStuckAttempts.markStuckAttempt_answerStep (kind : StuckKind)
    (db : Db) (copy : TaskAttempt) (now closedAt : Timestamp) :
    AnswerStep db (markStuckAttempt kind db copy now closedAt) ∧
      SameSubject db (markStuckAttempt kind db copy now closedAt) := by
  simp only [markStuckAttempt]
  split
  · exact ⟨.untouched rfl rfl rfl rfl, ⟨rfl, rfl, rfl, rfl, rfl, rfl⟩⟩
  · exact ⟨.untouched rfl rfl rfl rfl, .refl db⟩

namespace Views

theorem ForReview.answerStep {post : AnswerPost} {accepted : Bool}
    (reviewed : ForReview db post generated now next accepted) :
    AnswerStep db next ∧ SameSubject db next := by
  cases reviewed with
  | fixed _ => exact ⟨.untouched rfl rfl rfl rfl, .refl db⟩
  | submitted recorded serial _ _ submits grows =>
      obtain ⟨step, same⟩ := submits.answerStep
      refine ⟨?_, ⟨same.identity, same.task, same.isStaff, same.digest,
        same.foreign, same.coverage⟩⟩
      cases submits with
      | repeated _ _ _ => exact .kept rfl rfl (.inl rfl) grows
      | created submittable _ own isNew =>
          exact .submitted _ _ _ _ submittable own isNew rfl rfl rfl
            (Nat.lt_of_succ_le grows)

theorem Feedback.answerStep {post : MentorPost} {reply : FeedbackReply}
    (feedback : Feedback db post generated now next reply) :
    AnswerStep db next ∧ SameSubject db next := by
  cases feedback with
  | rejected _ => exact ⟨.untouched rfl rfl rfl rfl, .refl db⟩
  | alreadySaved _ _ reviews => exact reviews.answerStep
  | saved recorded _ _ reviews =>
      obtain ⟨step, same⟩ := reviews.answerStep
      exact ⟨step.ofSame rfl rfl rfl rfl,
          ⟨same.identity, same.task, same.isStaff, same.digest,
            same.foreign, same.coverage⟩⟩

end Views

/-- What any transaction does to the answers. -/
theorem Performed.answerStep {transaction : Transaction} {reply : Reply}
    (performed : Performed db transaction next reply) :
    AnswerStep db next ∧ SameSubject db next := by
  have untouched {other : Db} (submissions : other.submissions = db.submissions)
      (reviews : other.reviews = db.reviews)
      (events : other.sourceEvents = db.sourceEvents)
      (serial : other.serial = db.serial)
      (same : SameSubject db other) :
      AnswerStep db other ∧ SameSubject db other :=
    ⟨.untouched submissions reviews events serial, same⟩
  cases performed with
  | tryMarkCheck marked =>
      cases marked with
      | refused => exact untouched rfl rfl rfl rfl (.refl db)
      | requested _ _ _ =>
          exact untouched rfl rfl rfl rfl ⟨rfl, rfl, rfl, rfl, rfl, rfl⟩
  | recordDuplicate =>
      exact untouched rfl rfl rfl rfl ⟨rfl, rfl, rfl, rfl, rfl, rfl⟩
  | beginCheck begun =>
      cases begun with
      | duplicate =>
          exact untouched rfl rfl rfl rfl ⟨rfl, rfl, rfl, rfl, rfl, rfl⟩
      | started _ _ _ =>
          exact untouched rfl rfl rfl rfl ⟨rfl, rfl, rfl, rfl, rfl, rfl⟩
  | concludeCheck _ _ _ concluded => exact concluded.answerStep
  | closeRaisedCheck =>
      exact untouched rfl rfl rfl rfl ⟨rfl, rfl, rfl, rfl, rfl, rfl⟩
  | markCheckError marked =>
      cases marked with
      | ignored => exact untouched rfl rfl rfl rfl (.refl db)
      | reported _ _ _ _ =>
          exact untouched rfl rfl rfl rfl ⟨rfl, rfl, rfl, rfl, rfl, rfl⟩
  | tryMarkEnvironment requested =>
      cases requested with
      | repeated => exact untouched rfl rfl rfl rfl (.refl db)
      | refused _ _ _ =>
          exact untouched rfl rfl rfl rfl ⟨rfl, rfl, rfl, rfl, rfl, rfl⟩
      | won _ _ _ _ =>
          exact untouched rfl rfl rfl rfl ⟨rfl, rfl, rfl, rfl, rfl, rfl⟩
  | beginEnvironment begun =>
      cases begun with
      | duplicate _ =>
          exact untouched rfl rfl rfl rfl ⟨rfl, rfl, rfl, rfl, rfl, rfl⟩
      | refused _ _ _ _ =>
          exact untouched rfl rfl rfl rfl ⟨rfl, rfl, rfl, rfl, rfl, rfl⟩
      | started _ _ _ _ =>
          exact untouched rfl rfl rfl rfl ⟨rfl, rfl, rfl, rfl, rfl, rfl⟩
  | saveLaunched _ _ _ _ _ =>
      exact untouched rfl rfl rfl rfl ⟨rfl, rfl, rfl, rfl, rfl, rfl⟩
  | closeRaisedEnvironment =>
      exact untouched rfl rfl rfl rfl ⟨rfl, rfl, rfl, rfl, rfl, rfl⟩
  | markEnvironmentError failed => exact failed.answerStep
  | dispatchFailed failed =>
      obtain ⟨step, same⟩ := failed.answerStep
      refine ⟨?_, ⟨same.identity, same.task, same.isStaff, same.digest,
        same.foreign, same.coverage⟩⟩
      cases failed with
      | ignored _ => exact .untouched rfl rfl rfl rfl
      | failed _ => exact .untouched rfl rfl rfl rfl
      | legacy _ _ _ => exact .untouched rfl rfl rfl rfl
  | interrupt => exact untouched rfl rfl rfl rfl ⟨rfl, rfl, rfl, rfl, rfl, rfl⟩
  | markStuck => exact DetectStuckAttempts.markStuckAttempt_answerStep ..
  | submitAnswer submits => exact submits.answerStep
  | reviewAnswer reviews => exact reviews.answerStep
  | saveDraft =>
      simp only [Views.saveDraft]
      split
      · exact untouched rfl rfl rfl rfl (.refl db)
      · exact untouched rfl rfl rfl rfl ⟨rfl, rfl, rfl, rfl, rfl, rfl⟩
  | submitForReview reviewed => exact reviewed.answerStep
  | cleanup => exact untouched rfl rfl rfl rfl ⟨rfl, rfl, rfl, rfl, rfl, rfl⟩
  | saveMentorFeedback feedback => exact feedback.answerStep

end TicketSandbox.Sandbox
