import TicketSandbox.Sandbox.LedgerFacts

namespace TicketSandbox.Sandbox

/-!
# What the answer and review transactions do

Submitting and reviewing an answer have several ways to end without writing.
The relations below name each way a successful call can end, with the
conditions that lead there.
-/

variable {db next : Db} {copy : TaskAttempt} {generated : Uuid}
  {now : Timestamp}

namespace Ledger

/-- The attempt submits reviewed answers and has passed its checks. -/
structure Submittable (db : Db) : Prop where
  credit : db.identity.isCreditAttempt = true
  reviewed : db.task.requiresManualReview = true
  passed : db.technicalPassed = true

/-- What a successful `submit_answer` can have done. -/
inductive Submitted (db : Db) (clientAnswer traineeReport : Text)
    (opId : OperationInput) (generated : Uuid)
    (now : Timestamp) : Db → AnswerSubmission → Bool → Prop where
  | repeated {old : AnswerSubmission} : old ∈ db.submissions →
      operationId opId generated = .ok old.operationId →
      old.digest = db.digest clientAnswer traineeReport →
      Submitted db clientAnswer traineeReport opId generated now db old false
  | created {id : Uuid} : Submittable db → operationId opId generated = .ok id →
      db.foreign.submissions.contains id = false →
      (∀ row ∈ db.submissions, row.operationId ≠ id) →
      Submitted db clientAnswer traineeReport opId generated now
        { db with
          serial := db.serial + 1
          submissions := db.submissions ++
              [newSubmission db id clientAnswer traineeReport now] }
        (newSubmission db id clientAnswer traineeReport now)
        true

variable {opId : OperationInput} {submission : AnswerSubmission}
  {event : AnswerReviewEvent} {events : List SourceEvent} {actor : Pk}
  {decision : MentorDecision} {comment : Text} {submissionId : Option Pk}
  {result : Option AnswerReviewEvent}

theorem submitAnswer_ok {clientAnswer traineeReport : Text} {created : Bool}
    (covered : db.coverage.isSome = true) (accepted :
      submitAnswer db copy clientAnswer traineeReport opId generated now =
        .ok (next, submission, created)) :
    Submitted db clientAnswer traineeReport opId generated now next
      submission created := by
  simp only [submitAnswer, observe_of_covered covered] at accepted
  split at accepted
  · simp at accepted
  · rename_i reviewed
    simp only [Bool.not_eq_true, not_or, Bool.not_eq_false] at reviewed
    split at accepted
    · simp at accepted
    · rename_i id parsed
      split at accepted
      · simp at accepted
      · rename_i foreign
        split at accepted
        · rename_i old found
          split at accepted
          · simp at accepted
          · rename_i sameContent
            simp only [Except.ok.injEq, Prod.mk.injEq] at accepted
            obtain ⟨rfl, rfl, rfl⟩ := accepted
            have sameId : old.operationId = id := by
              simpa using List.find?_some found
            exact .repeated (List.mem_of_find?_eq_some found)
              (by rw [parsed, sameId]) (Decidable.not_not.mp sameContent)
        · rename_i missing
          simp only [Except.ok.injEq, Prod.mk.injEq] at accepted
          obtain ⟨rfl, rfl, rfl⟩ := accepted
          refine .created ⟨reviewed.1, reviewed.2.1, reviewed.2.2⟩ parsed
            (Bool.not_eq_true _ ▸ foreign) ?_
          intro row member
          simpa using List.find?_eq_none.mp missing row member

/-- The submission that a review would be about, past its staleness checks. -/
structure Current (db : Db) (submissionId : Option Pk)
    (submission : AnswerSubmission) : Prop where
  newest :
    Rows.newest? AnswerSubmission.ordinal (ownSubmissions db) = some submission
  addressed : submissionId = none ∨ submissionId = some submission.pk
  submitted : draftIsSubmitted db submission = true

/-- The gaps after a review that may not say which version it is about. -/
def notedGaps (db : Db) (submissionId : Option Pk) : List GapReason :=
  if submissionId.isNone then db.gaps ++ [.reviewVersionUnspecified]
  else db.gaps

/-- The published events after a review was recorded. -/
def Published
    (db : Db) (submission : AnswerSubmission) (event : AnswerReviewEvent)
    (events : List SourceEvent) : Prop :=
  let last := (db.reviewsOf submission.pk).getLast?
  let source : SourceEvent := .sandboxReview event.pk submission.pk event.kind
  if publishesReviews db ∧
      last.map AnswerReviewEvent.decision ≠ some event.decision then
    (source ∈ db.sourceEvents ∧ events = db.sourceEvents) ∨
      events = db.sourceEvents ++ [source]
  else
    events = db.sourceEvents

theorem Published.of_publishing (publishes : publishesReviews db ∧
        (db.reviewsOf submission.pk).getLast?.map AnswerReviewEvent.decision ≠
          some event.decision)
    (recorded :
      (.sandboxReview event.pk submission.pk event.kind ∈ db.sourceEvents ∧
          events = db.sourceEvents) ∨
        events = db.sourceEvents ++
            [.sandboxReview event.pk submission.pk event.kind]) :
    Published db submission event events := by
  simp only [Published]
  rw [if_pos publishes]
  exact recorded

theorem Published.of_silent (silent : ¬ (publishesReviews db ∧
        (db.reviewsOf submission.pk).getLast?.map AnswerReviewEvent.decision ≠
          some event.decision))
    (same : events = db.sourceEvents) :
    Published db submission event events := by
  simp only [Published]
  rw [if_neg silent]
  exact same

/-- The event repeats the actor, decision and comment of a review. -/
def SameContent
    (event : AnswerReviewEvent) (actor : Pk) (decision : MentorDecision)
    (comment : Text) : Prop :=
  event.actorId = actor ∧ event.decision = decision ∧ event.comment = comment

/-- What a successful `review_answer` can have done. -/
inductive Reviewed
    (db : Db) (actor : Pk) (decision : MentorDecision) (comment : Text)
    (submissionId : Option Pk) (opId : OperationInput) (generated : Uuid)
    (now : Timestamp) : Db → Option AnswerReviewEvent → Prop where
  | withoutSubmission :
      Rows.newest? AnswerSubmission.ordinal (ownSubmissions db) = none →
      submissionId = none →
      Reviewed db actor decision comment submissionId opId generated now
        { db with gaps := db.gaps ++ [.reviewWithoutSubmission] }
        none
  | replayed {submission : AnswerSubmission} {previous : AnswerReviewEvent} :
      Current db submissionId submission →
      previous ∈ db.reviews →
      operationId opId generated = .ok previous.operationId →
      previous.submissionId = submission.pk →
      SameContent previous actor decision comment →
      Reviewed db actor decision comment submissionId opId generated now
        { db with gaps := notedGaps db submissionId }
        (some previous)
  | unchanged {submission : AnswerSubmission} {last : AnswerReviewEvent}
      {id : Uuid} :
      Current db submissionId submission →
      operationId opId generated = .ok id →
      db.foreign.reviews.contains id = false →
      (∀ row ∈ db.reviews, row.operationId ≠ id) →
      (db.reviewsOf submission.pk).getLast? = some last →
      SameContent last actor decision comment →
      Reviewed db actor decision comment submissionId opId generated now
        { db with gaps := notedGaps db submissionId }
        (some last)
  | recorded {submission : AnswerSubmission} {id : Uuid}
      {events : List SourceEvent} :
      Current db submissionId submission →
      db.isStaff actor = true →
      db.latestSubmission.map AnswerSubmission.pk = some submission.pk →
      operationId opId generated = .ok id →
      db.foreign.reviews.contains id = false →
      (∀ row ∈ db.reviews, row.operationId ≠ id) →
      (∀ last, (db.reviewsOf submission.pk).getLast? = some last →
        ¬ SameContent last actor decision comment) →
      Published db submission
        (newReview db submission actor decision comment id now) events →
      Reviewed db actor decision comment submissionId opId generated now
        { db with
          gaps := notedGaps db submissionId
          serial := db.serial + 1
          reviews := db.reviews ++
              [newReview db submission actor decision comment id now]
          sourceEvents := events }
        (some (newReview db submission actor decision comment id now))

theorem saveReview_ok (accepted : saveReview db submission event = .ok next) :
    db.isStaff event.actorId = true ∧
      db.latestSubmission.map AnswerSubmission.pk = some event.submissionId ∧
      next =
        { db with
          serial := db.serial + 1
          reviews := db.reviews ++ [event] } := by
  simp only [saveReview] at accepted
  split at accepted
  · simp at accepted
  rename_i staff
  split at accepted
  · simp at accepted
  split at accepted
  · simp at accepted
  split at accepted
  · simp at accepted
  · rename_i chained
    simp only [isChained, Bool.and_eq_true, decide_eq_true_eq,
      Decidable.not_not] at chained
    simp only [Except.ok.injEq] at accepted
    exact ⟨by simpa using staff, chained.1.1, accepted.symm⟩

/-- The recording half of `review_answer`, from a current submission. -/
theorem recordReview_ok
    (current : Current db submissionId submission) (accepted :
      recordReview { db with gaps := notedGaps db submissionId } submission
          actor decision comment opId generated now =
        .ok (next, result)) :
    Reviewed db actor decision comment submissionId opId generated now next
      result := by
  simp only [recordReview] at accepted
  split at accepted
  · simp at accepted
  rename_i id parsed
  split at accepted
  · simp at accepted
  rename_i foreign
  have own : db.foreign.reviews.contains id = false :=
    Bool.not_eq_true _ ▸ foreign
  split at accepted
  · rename_i previous found
    split at accepted
    · rename_i same
      simp only [Except.ok.injEq, Prod.mk.injEq] at accepted
      obtain ⟨rfl, rfl⟩ := accepted
      have sameId : previous.operationId = id := by
        simpa using List.find?_some found
      exact .replayed current (List.mem_of_find?_eq_some found)
        (by rw [parsed, sameId]) same.1 same.2
    · simp at accepted
  rename_i missing
  have isNew : ∀ row ∈ db.reviews, row.operationId ≠ id := by
    intro row member
    simpa using List.find?_eq_none.mp missing row member
  split at accepted
  · rename_i same
    simp only [Except.ok.injEq, Prod.mk.injEq] at accepted
    obtain ⟨rfl, rfl⟩ := accepted
    obtain ⟨last, found, sameContent⟩ := (Option.any_eq_true _ _).mp same
    change (db.reviewsOf submission.pk).getLast? = some last at found
    have unchanged :
        Reviewed db actor decision comment submissionId opId generated now
          { db with gaps := notedGaps db submissionId } (some last) :=
      .unchanged current parsed own isNew found
        (by simpa [SameContent] using sameContent)
    rw [← found] at unchanged
    exact unchanged
  rename_i differs
  have lastDiffers : ∀ last, (db.reviewsOf submission.pk).getLast? = some last →
        ¬ SameContent last actor decision comment := by
    intro last found same
    apply differs
    exact (Option.any_eq_true _ _).mpr
      ⟨last, found, by simpa [SameContent] using same⟩
  split at accepted
  · simp at accepted
  rename_i saved savedOk
  obtain ⟨staff, latest, rfl⟩ := saveReview_ok savedOk
  split at accepted
  · rename_i publishes
    split at accepted
    · simp at accepted
    · rename_i published publishedOk
      simp only [Except.ok.injEq, Prod.mk.injEq] at accepted
      obtain ⟨rfl, rfl⟩ := accepted
      rcases publish_ok publishedOk with ⟨member, rfl⟩ | ⟨_, rfl⟩
      · exact .recorded current staff latest parsed own isNew lastDiffers
          (.of_publishing publishes (.inl ⟨member, rfl⟩))
      · exact .recorded current staff latest parsed own isNew lastDiffers
          (.of_publishing publishes (.inr rfl))
  · rename_i silent
    simp only [Except.ok.injEq, Prod.mk.injEq] at accepted
    obtain ⟨rfl, rfl⟩ := accepted
    exact .recorded current staff latest parsed own isNew lastDiffers
      (.of_silent silent rfl)

/-- What a review that succeeds has done. -/
theorem reviewAnswer_ok (covered : db.coverage.isSome = true) (accepted :
      reviewAnswer db copy actor decision comment submissionId opId generated
          now =
        .ok (next, result)) :
    Reviewed db actor decision comment submissionId opId generated now next
      result := by
  simp only [reviewAnswer, observe_of_covered covered,
    gap_of_covered covered] at accepted
  split at accepted
  · simp at accepted
  split at accepted
  · rename_i missing
    split at accepted
    · simp at accepted
    · rename_i unaddressed
      simp only [Except.ok.injEq, Prod.mk.injEq] at accepted
      obtain ⟨rfl, rfl⟩ := accepted
      exact .withoutSubmission missing (by simpa using unaddressed)
  · rename_i submission newest
    split at accepted
    · simp at accepted
    · rename_i addressed
      have isAddressed :
          submissionId = none ∨ submissionId = some submission.pk := by
        cases submissionId with
        | none => exact .inl rfl
        | some id => exact .inr (by simpa using addressed)
      have noted : (if submissionId.isNone = true then
              { db with gaps := db.gaps ++ [.reviewVersionUnspecified] }
            else
              db) =
            { db with gaps := notedGaps db submissionId } := by
        cases submissionId <;> rfl
      rw [noted] at accepted
      split at accepted
      · simp at accepted
      · rename_i submitted
        exact recordReview_ok
          ⟨newest, isAddressed, Decidable.not_not.mp submitted⟩ accepted

end Ledger

namespace Views

/-- What the second transaction of the answer branch can have done. -/
inductive ForReview (db : Db) (post : AnswerPost) (generated : Uuid)
    (now : Timestamp) : Db → Bool → Prop where
  | fixed : answerIsFixed db = true → ForReview db post generated now db false
  | submitted (recorded : Db) (serial : Pk) (aiReviews : List AIReview)
      {submission : AnswerSubmission} {created : Bool} :
      answerIsFixed db = false →
      Ledger.Submitted db post.clientAnswer post.traineeReport
        post.operationId generated now recorded submission created →
      recorded.serial ≤ serial →
      ForReview db post generated now
        { recorded with
          serial := serial
          aiReviews := aiReviews
          attempt := submitted recorded.attempt post now }
        true

theorem submitForReview_ok
    {post : AnswerPost} {aiAvailable : Bool} {accepted : Bool}
    (covered : db.coverage.isSome = true) (ok :
      submitForReview db copy post aiAvailable generated now =
        .ok (next, accepted)) :
    ForReview db post generated now next accepted := by
  simp only [submitForReview] at ok
  split at ok
  · rename_i fixed
    simp only [Except.ok.injEq, Prod.mk.injEq] at ok
    obtain ⟨rfl, rfl⟩ := ok
    exact .fixed fixed
  rename_i editable
  split at ok
  · simp at ok
  rename_i recorded submission created submittedOk
  have submits := Ledger.submitAnswer_ok covered submittedOk
  split at ok
  · simp at ok
  rename_i saved savedOk
  simp only [Except.ok.injEq, Prod.mk.injEq] at ok
  obtain ⟨rfl, rfl⟩ := ok
  have open_ : answerIsFixed db = false := Bool.not_eq_true _ ▸ editable
  split at savedOk
  · simp only [createAIReview] at savedOk
    split at savedOk
    · simp only [Except.ok.injEq] at savedOk
      subst savedOk
      exact .submitted recorded _ _ open_ submits (Nat.le_succ _)
    · simp at savedOk
  · simp only [Except.ok.injEq] at savedOk
    subst savedOk
    exact .submitted recorded _ _ open_ submits (Nat.le_refl _)

/-- The form passes every check that comes before the ledger. -/
def admits (db : Db) (post : MentorPost) : Bool :=
  decide (post.operationId ≠ .malformed) && db.isStaff post.actor &&
    !db.identity.isExtraAttempt &&
    !duplicateReview db post

/-- What `save_mentor_feedback` can have done. -/
inductive Feedback (db : Db) (post : MentorPost) (generated : Uuid)
    (now : Timestamp) : Db → FeedbackReply → Prop where
  | rejected {reply : FeedbackReply} : reply ≠ .saved →
      Feedback db post generated now db reply
  | alreadySaved (recorded : Db) {event : Option AnswerReviewEvent} :
      duplicateReview db post = true →
      Ledger.Reviewed db post.actor post.mentorDecision
        (strip post.feedback) post.submissionId post.operationId generated
        now recorded event →
      Feedback db post generated now recorded .alreadySaved
  | saved (recorded : Db) (aiReviews : List AIReview)
      {event : Option AnswerReviewEvent} :
      admits db post = true →
      Ledger.Reviewed db post.actor post.mentorDecision
        (strip post.feedback) post.submissionId post.operationId generated
        now recorded event →
      Feedback db post generated now
        { recorded with
          attempt := reviewed recorded.attempt post now
          aiReviews := aiReviews }
        .saved

theorem saveMentorFeedback_ok {post : MentorPost} {reply : FeedbackReply}
    (covered : db.coverage.isSome = true)
    (accepted : saveMentorFeedback db post generated now = .ok (next, reply)) :
    Feedback db post generated now next reply := by
  simp only [saveMentorFeedback] at accepted
  split at accepted
  · simp only [Except.ok.injEq, Prod.mk.injEq] at accepted
    obtain ⟨rfl, rfl⟩ := accepted
    exact .rejected (by simp)
  rename_i parsed
  split at accepted
  · simp only [Except.ok.injEq, Prod.mk.injEq] at accepted
    obtain ⟨rfl, rfl⟩ := accepted
    exact .rejected (by simp)
  rename_i staff
  split at accepted
  · simp only [Except.ok.injEq, Prod.mk.injEq] at accepted
    obtain ⟨rfl, rfl⟩ := accepted
    exact .rejected (by simp)
  rename_i credit
  split at accepted
  · split at accepted
    · simp only [Except.ok.injEq, Prod.mk.injEq] at accepted
      obtain ⟨rfl, rfl⟩ := accepted
      exact .rejected (by simp)
    · simp at accepted
  · rename_i recorded event reviewedOk
    have reviews := Ledger.reviewAnswer_ok covered reviewedOk
    split at accepted
    · rename_i duplicate
      simp only [Except.ok.injEq, Prod.mk.injEq] at accepted
      obtain ⟨rfl, rfl⟩ := accepted
      exact .alreadySaved _ duplicate reviews
    · rename_i first
      simp only [Except.ok.injEq, Prod.mk.injEq] at accepted
      obtain ⟨rfl, rfl⟩ := accepted
      refine .saved recorded _ ?_ reviews
      simp_all [admits]

end Views

end TicketSandbox.Sandbox
