import TicketSandbox.Sandbox.SystemFacts

namespace TicketSandbox.Sandbox

/-!
# Submissions and reviews over whole runs

Reviews grow only at the end of the chain of the newest submission.  An
operation identity that a row carries is never recorded a second time: its
replay returns that row, or it raises.
-/

open Runs

variable {db : Db} {coverage : AttemptCoverage}

namespace Ledger

/-- A call repeats a recorded review that still is about the current text. -/
structure Replays (db : Db) (event : AnswerReviewEvent) (actor : Pk)
    (decision : MentorDecision) (comment : Text)
    (submissionId : Option Pk) : Prop where
  same : SameContent event actor decision comment
  newest : db.latestSubmission.map AnswerSubmission.pk = some event.submissionId
  addressed : submissionId = none ∨ submissionId = some event.submissionId
  submitted : ∀ submission, db.latestSubmission = some submission →
      draftIsSubmitted db submission = true

variable {event : AnswerReviewEvent} {actor : Pk} {decision : MentorDecision}
  {comment : Text} {submissionId : Option Pk}

theorem find?_review
    (recorded : ReviewsRecorded db) (member : event ∈ db.reviews) :
    db.reviews.find? (fun row => row.operationId = event.operationId) =
      some event :=
  Rows.find?_of_key recorded.uniqueIds member (decide_eq_true rfl)
    fun _ same => of_decide_eq_true same

theorem exists_latestSubmission (submissions : SubmissionsRecorded db)
    (recorded : ReviewsRecorded db) (member : event ∈ db.reviews) :
    ∃ submission, db.latestSubmission = some submission := by
  obtain ⟨row, rowMember, _⟩ := recorded.about event member
  rw [submissions.latestSubmission_eq]
  exact ⟨_, List.getLast?_eq_some_getLast (List.ne_nil_of_mem rowMember)⟩

theorem reviewAnswer_replays
    (agrees : Agrees coverage db) (member : event ∈ db.reviews)
    (replays : Replays db event actor decision comment submissionId)
    (copy : TaskAttempt) (generated : Uuid) (now : Timestamp) :
    reviewAnswer db copy actor decision comment submissionId
        (.given event.operationId) generated now =
      .ok ({ db with gaps := notedGaps db submissionId }, some event) := by
  obtain ⟨submission, isLatest⟩ :=
    exists_latestSubmission agrees.submissions agrees.reviews member
  obtain ⟨rfl, rfl, rfl⟩ := replays.same
  have samePk : submission.pk = event.submissionId := by
    have newest := replays.newest
    rw [isLatest] at newest
    exact Option.some.inj newest
  have isNewest : Rows.newest? AnswerSubmission.ordinal db.submissions =
        some submission := isLatest
  have addressed : ¬ (submissionId.isSome = true ∧
        submissionId ≠ some event.submissionId) := by
    rintro ⟨present, differs⟩
    rcases replays.addressed with rfl | same
    · simp at present
    · exact differs same
  have noted : (if submissionId.isNone = true then
          { db with gaps := db.gaps ++ [.reviewVersionUnspecified] }
        else
          db) =
        { db with gaps := notedGaps db submissionId } := by
    cases submissionId <;> rfl
  have submitted :
      draftIsSubmitted { db with gaps := notedGaps db submissionId }
        submission = true :=
    replays.submitted submission isLatest
  have own := agrees.reviews.own event member
  have found := find?_review agrees.reviews member
  simp only [reviewAnswer, agrees.reviews.byStaff event member,
    observe_of_covered agrees.isCovered, gap_of_covered agrees.isCovered,
    agrees.submissions.ownSubmissions_eq, isNewest, addressed, noted,
    submitted, recordReview, operationId, own, found, samePk,
    not_true_eq_false, ↓reduceIte, Bool.false_eq_true, and_self]

theorem reviewAnswer_conflicts
    (agrees : Agrees coverage db) (member : event ∈ db.reviews)
    (differs : ¬ Replays db event actor decision comment submissionId)
    (copy : TaskAttempt) (generated : Uuid) (now : Timestamp) :
    ∃ failure, reviewAnswer db copy actor decision comment submissionId
          (.given event.operationId) generated now =
        .error failure := by
  cases result : reviewAnswer db copy actor decision comment submissionId
        (.given event.operationId) generated now with
  | error failure => exact ⟨failure, rfl⟩
  | ok answer =>
      obtain ⟨next, returned⟩ := answer
      exfalso
      cases reviewAnswer_ok agrees.isCovered result with
      | withoutSubmission missing _ =>
          obtain ⟨submission, isLatest⟩ :=
            exists_latestSubmission agrees.submissions agrees.reviews member
          rw [agrees.submissions.ownSubmissions_eq] at missing
          rw [Db.latestSubmission, missing] at isLatest
          simp at isLatest
      | @replayed submission previous current previousMember parsed about
          same =>
          have sameId : previous.operationId = event.operationId := by
            simpa [operationId] using parsed.symm
          have sameEvent : previous = event :=
            Rows.eq_of_key agrees.reviews.uniqueIds previousMember member sameId
          subst sameEvent
          have isLatest : db.latestSubmission = some submission := by
            rw [agrees.submissions.latestSubmission_eq]
            exact agrees.submissions.current_getLast? current
          apply differs
          refine ⟨same, ?_, ?_, ?_⟩
          · rw [isLatest, about]
            rfl
          · rw [about]
            exact current.addressed
          · intro other isOther
            rw [isLatest] at isOther
            exact Option.some.inj isOther ▸ current.submitted
      | @unchanged _ _ id _ parsed _ isNew _ _ =>
          have sameId : event.operationId = id := by
            simpa [operationId] using parsed
          exact isNew event member sameId
      | @recorded _ id _ _ _ _ parsed _ isNew _ _ =>
          have sameId : event.operationId = id := by
            simpa [operationId] using parsed
          exact isNew event member sameId

theorem submitAnswer_replays
    {row : AnswerSubmission} {clientAnswer traineeReport : Text}
    (agrees : Agrees coverage db) (member : row ∈ db.submissions)
    (copy : TaskAttempt) (generated : Uuid) (now : Timestamp) :
    submitAnswer db copy clientAnswer traineeReport
        (.given row.operationId) generated now =
      if row.digest = db.digest clientAnswer traineeReport then
        .ok (db, row, false)
      else
        .error .submissionConflict := by
  have submittable := agrees.submissions.submittable (List.ne_nil_of_mem member)
  have own := agrees.submissions.own row member
  have found :
      db.submissions.find? (fun other => other.operationId = row.operationId) =
        some row :=
    Rows.find?_of_key agrees.submissions.uniqueIds member (decide_eq_true rfl)
      fun _ same => of_decide_eq_true same
  simp only [submitAnswer, submittable.credit, submittable.reviewed,
    submittable.passed, observe_of_covered agrees.isCovered, operationId,
    own, found, not_true_eq_false, or_self, Bool.false_eq_true, ↓reduceIte,
    ite_not]

end Ledger

/-- The reviews of one database compared with those one step later. -/
def ReviewsGrow (db next : Db) : Prop :=
  next.reviews = db.reviews ∨ ∃ submission event,
      next.reviews = db.reviews ++ [event] ∧
        db.latestSubmission = some submission ∧
        event.submissionId = submission.pk ∧
        Ledger.draftIsSubmitted db submission = true

/-- At most one review is added, of the latest submission. -/
theorem Performed.reviewsGrow {next : Db} {transaction : Transaction}
    {reply : Reply} (agrees : Agrees coverage db)
    (performed : Performed db transaction next reply) :
    ReviewsGrow db next := by
  cases performed.answerStep.1 with
  | kept _ reviews _ _ => exact .inl reviews
  | submitted _ _ _ _ _ _ _ _ reviews _ _ => exact .inl reviews
  | reviewed _ submission _ _ _ _ _ current _ _ _ _ _ _ reviews _ =>
      refine .inr ⟨submission, _, reviews, ?_, rfl, current.submitted⟩
      rw [agrees.submissions.latestSubmission_eq]
      exact agrees.submissions.current_getLast? current

/--
What holds of the submissions and reviews of a database: every submission has
one chain of reviews without repetition, whose changes of decision are
published, and replayed operations return their row or raise.
-/
structure AnswersHold (db : Db) : Prop where
  chained :
    ∀ submissionId, Chains.Linked Follows none (db.reviewsOf submissionId)
  published : Ledger.publishesReviews db = true → ∀ submissionId,
      db.sourceEvents.countP (SourceEvent.isReviewOf submissionId) =
        Chains.changes AnswerReviewEvent.decision none
          (db.reviewsOf submissionId)
  reviewReplayed : ∀ event ∈ db.reviews,
    ∀ copy actor decision comment submissionId generated now,
      Ledger.Replays db event actor decision comment submissionId →
      Ledger.reviewAnswer db copy actor decision comment submissionId
          (.given event.operationId) generated now =
        .ok ({ db with gaps := Ledger.notedGaps db submissionId }, some event)
  reviewRefused : ∀ event ∈ db.reviews,
    ∀ copy actor decision comment submissionId generated now,
      ¬ Ledger.Replays db event actor decision comment submissionId →
      ∃ failure, Ledger.reviewAnswer db copy actor decision comment submissionId
            (.given event.operationId) generated now =
          .error failure
  submissionReplayed : ∀ row ∈ db.submissions,
    ∀ copy clientAnswer traineeReport generated now,
      Ledger.submitAnswer db copy clientAnswer traineeReport
          (.given row.operationId) generated now =
        if row.digest = db.digest clientAnswer traineeReport then
          .ok (db, row, false)
        else
          .error .submissionConflict

theorem Agrees.answersHold (agrees : Agrees coverage db) : AnswersHold db where
  chained := agrees.reviews.linked
  published := agrees.reviews.published
  reviewReplayed := fun _ member copy _ _ _ _ generated now replays =>
    Ledger.reviewAnswer_replays agrees member replays copy generated now
  reviewRefused := fun _ member copy _ _ _ _ generated now differs =>
    Ledger.reviewAnswer_conflicts agrees member differs copy generated now
  submissionReplayed := fun _ member copy _ _ generated now =>
    Ledger.submitAnswer_replays agrees member copy generated now

/--
In every state that a fresh attempt can reach the answers hold, and every
further step adds at most one review, of the newest submission and its text.
-/
theorem reachable_answersHold
    (identity : AttemptIdentity) (task : Task) (isStaff : Pk → Bool)
    (digest : Text → Text → Nat) (foreign : ForeignIds) {serial : Pk}
    (positive : 0 < serial) {actions : List Action} {last : System} (run :
      Run System.step? anything (System.created
          (Db.created identity task isStaff digest foreign serial))
        actions last) :
    AnswersHold last.db ∧ ∀ action next, last.step? action = some next →
        ReviewsGrow last.db next.db := by
  obtain ⟨coverage, _, _, initially⟩ :=
    System.Agrees.created identity task isStaff digest foreign positive
  have agrees := initially.run run
  refine ⟨agrees.db.answersHold, ?_⟩
  intro action next stepped
  rcases agrees.performedOrSame (System.step?_stepped stepped) with
    same | ⟨_, _, _, _, performed⟩
  · exact .inl (congrArg Db.reviews same)
  · exact performed.reviewsGrow agrees.db

/-- A passed check, a submission, its approval, and a second submission. -/
def reviewedThenResubmitted : List Action :=
  [.call (.tryMarkCheck .absent 7 0 0), .enter 0 (.deliverCheck 7),
    .commit 0 (.clock 1),
    .read 0,
    .commit 0 (.outcome (.exited (some 0) "ok") 2),
    .call (.submitAnswer .created [] [] (.given 20) 0 3),
    .call (.reviewAnswer .created 9 .approved [] (some 2) (.given 30) 0 4),
    .call (.submitAnswer .created [' '] [] (.given 21) 0 5)]

theorem reachable_answersHold_resubmitted :
    ∃ last : System, last.db.submissions.length = 2 ∧ AnswersHold last.db ∧
        ∀ action next, last.step? action = some next →
          ReviewsGrow last.db next.db := by
  refine ⟨(run? System.step? System.firstAttempt
        reviewedThenResubmitted).get (by decide), by decide, ?_⟩
  exact reachable_answersHold _ _ _ _ _ (by decide)
    (run?_get (fun _ _ _ => trivial) (by decide))

/--
Replaying an approval word for word raises once a newer submission is there,
instead of returning the review it recorded.
-/
theorem replayed_review_raises :
    ∃ last : System, Run System.step? anything System.firstAttempt
          reviewedThenResubmitted last ∧
        ∃ event ∈ last.db.reviews,
          Ledger.reviewAnswer last.db last.db.attempt event.actorId
              event.decision event.comment (some event.submissionId)
              (.given event.operationId) 40 6 =
            .error .staleSubmission := by
  refine ⟨_, run?_get (fun _ _ _ => trivial) (by decide), ?_⟩
  refine
    ⟨{ pk := 3
       submissionId := 2
       actorId := 9
       reviewedAt := 4
       decision := .approved
       comment := []
       operationId := 30
       kind := .decision
       supersedes := none }, by decide, rfl⟩

end TicketSandbox.Sandbox
