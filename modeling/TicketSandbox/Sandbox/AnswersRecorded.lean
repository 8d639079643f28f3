import TicketSandbox.Library.Chains
import TicketSandbox.Sandbox.AnswerSteps
import TicketSandbox.Sandbox.ChecksRecorded

namespace TicketSandbox.Sandbox

/-!
# The answer ledger is well formed

Submissions are numbered and belong to the attempt.  The reviews of each
submission form one chain of corrections, and each change of decision in a
chain is published once.
-/

/-- The row carries the columns of the attempt that it belongs to. -/
structure AnswerSubmission.OwnedBy
    (identity : AttemptIdentity) (row : AnswerSubmission) : Prop where
  userId : row.userId = identity.userId
  taskId : row.taskId = identity.taskId
  attemptNumber : row.attemptNumber = identity.attemptNumber

/-- The submissions of the attempt are its own, numbered and distinct. -/
structure SubmissionsRecorded (db : Db) : Prop where
  numbered : Rows.Numbered AnswerSubmission.ordinal db.submissions
  pks : ∀ row ∈ db.submissions, row.pk < db.serial
  uniquePks : (db.submissions.map AnswerSubmission.pk).Nodup
  uniqueIds : (db.submissions.map AnswerSubmission.operationId).Nodup
  owned : ∀ row ∈ db.submissions, row.OwnedBy db.identity
  content : ∀ row ∈ db.submissions,
      row.digest = db.digest row.clientAnswer row.traineeReport
  submittable : db.submissions ≠ [] → Ledger.Submittable db
  own : ∀ row ∈ db.submissions,
      db.foreign.submissions.contains row.operationId = false

/-- A review continues the chain that ends with the previous one. -/
structure Follows (previous : Option AnswerReviewEvent)
    (event : AnswerReviewEvent) : Prop where
  supersedes : event.supersedes = previous.map AnswerReviewEvent.pk
  kind : event.kind = if previous.isSome then .correction else .decision
  differs : ∀ earlier, previous = some earlier →
      ¬ Ledger.SameContent earlier event.actorId event.decision event.comment

/-- The source event is a published review of the submission. -/
def SourceEvent.isReviewOf (submissionId : Pk) : SourceEvent → Bool
  | .sandboxReview _ reviewed _ => decide (reviewed = submissionId)
  | .sandboxTechnical _ => false

/-- The reviews form chains, and the changes of decision are published. -/
structure ReviewsRecorded (db : Db) : Prop where
  about :
    ∀ event ∈ db.reviews, ∃ row ∈ db.submissions, event.submissionId = row.pk
  pks : ∀ event ∈ db.reviews, event.pk < db.serial
  increasing : (db.reviews.map AnswerReviewEvent.pk).Pairwise (· < ·)
  uniqueIds : (db.reviews.map AnswerReviewEvent.operationId).Nodup
  own :
    ∀ event ∈ db.reviews, db.foreign.reviews.contains event.operationId = false
  byStaff : ∀ event ∈ db.reviews, db.isStaff event.actorId = true
  linked :
    ∀ submissionId, Chains.Linked Follows none (db.reviewsOf submissionId)
  sourcePks : ∀ reviewId submissionId kind,
      .sandboxReview reviewId submissionId kind ∈ db.sourceEvents →
      reviewId < db.serial
  published : Ledger.publishesReviews db = true → ∀ submissionId,
      db.sourceEvents.countP (SourceEvent.isReviewOf submissionId) =
        Chains.changes AnswerReviewEvent.decision none
          (db.reviewsOf submissionId)

variable {db next : Db} {id : Uuid} {now : Timestamp}
  {submission : AnswerSubmission} {event : AnswerReviewEvent}

namespace SubmissionsRecorded

theorem created (identity : AttemptIdentity) (task : Task) (isStaff : Pk → Bool)
    (digest : Text → Text → Nat) (foreign : ForeignIds) (serial : Pk) :
    SubmissionsRecorded
      (Db.created identity task isStaff digest foreign serial) where
  numbered := Rows.Numbered.nil _
  pks := by simp [Db.created]
  uniquePks := List.nodup_nil
  uniqueIds := List.nodup_nil
  owned := by simp [Db.created]
  content := by simp [Db.created]
  submittable := by simp [Db.created]
  own := by simp [Db.created]

theorem staysSubmittable (same : SameSubject db next)
    (passed : db.technicalPassed = true → next.technicalPassed = true)
    (submittable : Ledger.Submittable db) :
    Ledger.Submittable next := by
  refine ⟨?_, ?_, passed submittable.passed⟩
  · rw [same.identity]
    exact submittable.credit
  · rw [same.task]
    exact submittable.reviewed

theorem keep (recorded : SubmissionsRecorded db) (same : SameSubject db next)
    (passed : db.technicalPassed = true → next.technicalPassed = true)
    (submissions : next.submissions = db.submissions)
    (serial : db.serial ≤ next.serial) :
    SubmissionsRecorded next where
  numbered := submissions ▸ recorded.numbered
  pks := by
    rw [submissions]
    intro row member
    exact Nat.lt_of_lt_of_le (recorded.pks row member) serial
  uniquePks := submissions ▸ recorded.uniquePks
  uniqueIds := submissions ▸ recorded.uniqueIds
  owned := by
    rw [submissions, same.identity]
    exact recorded.owned
  content := by
    rw [submissions, same.digest]
    exact recorded.content
  submittable := by
    rw [submissions]
    intro present
    exact staysSubmittable same passed (recorded.submittable present)
  own := by
    rw [submissions, same.foreign]
    exact recorded.own

theorem submit {clientAnswer traineeReport : Text}
    (recorded : SubmissionsRecorded db) (same : SameSubject db next)
    (passed : db.technicalPassed = true → next.technicalPassed = true)
    (submittable : Ledger.Submittable db)
    (isOwn : db.foreign.submissions.contains id = false)
    (isNew : ∀ row ∈ db.submissions, row.operationId ≠ id) (submissions :
      next.submissions = db.submissions ++
          [Ledger.newSubmission db id clientAnswer traineeReport now])
    (serial : db.serial < next.serial) :
    SubmissionsRecorded next := by
  have rows {row : AnswerSubmission} (member : row ∈ next.submissions) :
      row ∈ db.submissions ∨ row =
          Ledger.newSubmission db id clientAnswer traineeReport now := by
    rw [submissions] at member
    rcases List.mem_append.mp member with old | new
    · exact .inl old
    · exact .inr (List.mem_singleton.mp new)
  refine
    { numbered := ?_
      pks := ?_
      uniquePks := ?_
      uniqueIds := ?_
      owned := ?_
      content := ?_
      submittable := fun _ => staysSubmittable same passed submittable
      own := ?_ }
  · rw [submissions]
    exact recorded.numbered.append rfl
  · intro row member
    rcases rows member with old | rfl
    · exact Nat.lt_trans (recorded.pks row old) serial
    · exact serial
  · rw [submissions]
    exact Rows.nodup_append_new recorded.uniquePks fun row member =>
      Nat.ne_of_lt (recorded.pks row member)
  · rw [submissions]
    exact Rows.nodup_append_new recorded.uniqueIds isNew
  · intro row member
    rw [same.identity]
    rcases rows member with old | rfl
    · exact recorded.owned row old
    · exact ⟨rfl, rfl, rfl⟩
  · intro row member
    rw [same.digest]
    rcases rows member with old | rfl
    · exact recorded.content row old
    · rfl
  · intro row member
    rw [same.foreign]
    rcases rows member with old | rfl
    · exact recorded.own row old
    · exact isOwn

theorem performed {transaction : Transaction} {reply : Reply}
    (recorded : SubmissionsRecorded db) (uniqueRuns : db.UniqueRuns)
    (performed : Performed db transaction next reply) :
    SubmissionsRecorded next := by
  have passed := (performed.checkStep uniqueRuns).technicalPassed
  obtain ⟨step, same⟩ := performed.answerStep
  cases step with
  | kept submissions _ _ serial =>
      exact recorded.keep same passed submissions serial
  | submitted _ _ _ _ submittable own isNew submissions _ _ serial =>
      exact recorded.submit same passed submittable own isNew submissions serial
  | reviewed _ _ _ _ _ _ _ _ _ _ _ _ _ submissions _ serial =>
      exact recorded.keep same passed submissions (serial ▸ Nat.le_succ _)

theorem ownSubmissions_eq (recorded : SubmissionsRecorded db) :
    Ledger.ownSubmissions db = db.submissions := by
  apply List.filter_eq_self.mpr
  intro row member
  have owned := recorded.owned row member
  simp [owned.userId, owned.taskId]

/-- The latest submission is the last row. -/
theorem latestSubmission_eq (recorded : SubmissionsRecorded db) :
    db.latestSubmission = db.submissions.getLast? :=
  recorded.numbered.newest?_eq_getLast?

theorem current_getLast?
    {submissionId : Option Pk} (recorded : SubmissionsRecorded db)
    (current : Ledger.Current db submissionId submission) :
    db.submissions.getLast? = some submission := by
  rw [← recorded.numbered.newest?_eq_getLast?, ← recorded.ownSubmissions_eq]
  exact current.newest

end SubmissionsRecorded

/-- A new review is about the submission it was made for. -/
@[simp] theorem Ledger.newReview_submissionId
    (db : Db) (submission : AnswerSubmission) (actor : Pk)
    (decision : MentorDecision) (comment : Text) (id : Uuid) (now : Timestamp) :
    (newReview db submission actor decision comment id now).submissionId =
      submission.pk :=
  rfl

theorem Db.reviewsOf_append
    (reviews : next.reviews = db.reviews ++ [event]) (submissionId : Pk) :
    next.reviewsOf submissionId =
      if event.submissionId = submissionId then
        db.reviewsOf submissionId ++ [event]
      else
        db.reviewsOf submissionId := by
  rw [Db.reviewsOf, reviews, List.filter_append]
  by_cases same : event.submissionId = submissionId
  · simp [same, Db.reviewsOf]
  · simp [same, Db.reviewsOf]

namespace ReviewsRecorded

theorem created (identity : AttemptIdentity) (task : Task) (isStaff : Pk → Bool)
    (digest : Text → Text → Nat) (foreign : ForeignIds) (serial : Pk) :
    ReviewsRecorded
      (Db.created identity task isStaff digest foreign serial) where
  about := by simp [Db.created]
  pks := by simp [Db.created]
  increasing := List.Pairwise.nil
  uniqueIds := List.nodup_nil
  own := by simp [Db.created]
  byStaff := by simp [Db.created]
  linked := fun _ => trivial
  sourcePks := by simp [Db.created]
  published := fun _ _ => rfl

variable {old new : List SourceEvent}

theorem countP_technical
    (technical : TechnicalOnly old new) (submissionId : Pk) :
    new.countP (SourceEvent.isReviewOf submissionId) =
      old.countP (SourceEvent.isReviewOf submissionId) := by
  rcases technical with rfl | ⟨checkRunId, rfl⟩
  · rfl
  · simp [List.countP_append, SourceEvent.isReviewOf]

theorem mem_technical {reviewId submissionId : Pk} {kind : ReviewKind}
    (technical : TechnicalOnly old new)
    (member : .sandboxReview reviewId submissionId kind ∈ new) :
    .sandboxReview reviewId submissionId kind ∈ old := by
  rcases technical with rfl | ⟨checkRunId, rfl⟩
  · exact member
  · simpa using member

theorem keep (recorded : ReviewsRecorded db) (same : SameSubject db next)
    (submissions : ∀ row ∈ db.submissions, row ∈ next.submissions)
    (reviews : next.reviews = db.reviews)
    (events : TechnicalOnly db.sourceEvents next.sourceEvents)
    (serial : db.serial ≤ next.serial) :
    ReviewsRecorded next where
  about := by
    rw [reviews]
    intro event member
    obtain ⟨row, rowMember, sameRow⟩ := recorded.about event member
    exact ⟨row, submissions row rowMember, sameRow⟩
  pks := by
    rw [reviews]
    intro event member
    exact Nat.lt_of_lt_of_le (recorded.pks event member) serial
  increasing := reviews ▸ recorded.increasing
  uniqueIds := reviews ▸ recorded.uniqueIds
  own := by
    rw [reviews, same.foreign]
    exact recorded.own
  byStaff := by
    rw [reviews, same.isStaff]
    exact recorded.byStaff
  linked := by
    intro submissionId
    rw [Db.reviewsOf, reviews]
    exact recorded.linked submissionId
  sourcePks := by
    intro reviewId submissionId kind member
    exact Nat.lt_of_lt_of_le
      (recorded.sourcePks _ _ _ (mem_technical events member)) serial
  published := by
    intro publishes submissionId
    rw [Ledger.publishesReviews, same.identity, same.task] at publishes
    rw [countP_technical events, Db.reviewsOf, reviews]
    exact recorded.published publishes submissionId

theorem newEvents {events : List SourceEvent} (recorded : ReviewsRecorded db)
    (newPk : event.pk = db.serial)
    (published : Ledger.Published db submission event events) :
    events =
      if Ledger.publishesReviews db ∧
          (db.reviewsOf submission.pk).getLast?.map AnswerReviewEvent.decision ≠
            some event.decision then
        db.sourceEvents ++ [.sandboxReview event.pk submission.pk event.kind]
      else
        db.sourceEvents := by
  simp only [Ledger.Published] at published
  split at published
  · rename_i publishes
    rw [if_pos publishes]
    rcases published with ⟨member, _⟩ | appended
    · have below := recorded.sourcePks _ _ _ member
      rw [newPk] at below
      exact (Nat.lt_irrefl _ below).elim
    · exact appended
  · rename_i silent
    rw [if_neg silent]
    exact published

/-- A new review continues its chain and keeps the chains well formed. -/
theorem review {actor : Pk} {decision : MentorDecision} {comment : Text}
    (recorded : ReviewsRecorded db) (same : SameSubject db next)
    (member : submission ∈ db.submissions) (isStaff : db.isStaff actor = true)
    (isOwn : db.foreign.reviews.contains id = false)
    (isNew : ∀ row ∈ db.reviews, row.operationId ≠ id) (differs :
      ∀ last, (db.reviewsOf submission.pk).getLast? = some last →
        ¬ Ledger.SameContent last actor decision comment)
    (published : Ledger.Published db submission
        (Ledger.newReview db submission actor decision comment id now)
        next.sourceEvents)
    (submissions : next.submissions = db.submissions)
    (reviews : next.reviews = db.reviews ++
          [Ledger.newReview db submission actor decision comment id now])
    (serial : next.serial = db.serial + 1) :
    ReviewsRecorded next := by
  have events := recorded.newEvents rfl published
  have rows {event : AnswerReviewEvent} (eventMember : event ∈ next.reviews) :
      event ∈ db.reviews ∨ event =
          Ledger.newReview db submission actor decision comment id
            now := by
    rw [reviews] at eventMember
    rcases List.mem_append.mp eventMember with old | new
    · exact .inl old
    · exact .inr (List.mem_singleton.mp new)
  refine
    { about := ?_
      pks := ?_
      increasing := ?_
      uniqueIds := ?_
      own := ?_
      byStaff := ?_
      linked := ?_
      sourcePks := ?_
      published := ?_ }
  · intro event eventMember
    rw [submissions]
    rcases rows eventMember with old | rfl
    · exact recorded.about event old
    · exact ⟨submission, member, rfl⟩
  · intro event eventMember
    rw [serial]
    rcases rows eventMember with old | rfl
    · exact Nat.lt_succ_of_lt (recorded.pks event old)
    · exact Nat.lt_succ_self _
  · rw [reviews, List.map_append, List.pairwise_append]
    refine ⟨recorded.increasing, by simp, ?_⟩
    intro pk pkMember new newMember
    obtain ⟨event, eventMember, rfl⟩ := List.mem_map.mp pkMember
    have newPk : new = db.serial := by
      simpa [Ledger.newReview] using newMember
    rw [newPk]
    exact recorded.pks event eventMember
  · rw [reviews]
    exact Rows.nodup_append_new recorded.uniqueIds isNew
  · intro event eventMember
    rw [same.foreign]
    rcases rows eventMember with old | rfl
    · exact recorded.own event old
    · exact isOwn
  · intro event eventMember
    rw [same.isStaff]
    rcases rows eventMember with old | rfl
    · exact recorded.byStaff event old
    · exact isStaff
  · intro submissionId
    rw [Db.reviewsOf_append reviews]
    split
    · rename_i sameSubmission
      subst sameSubmission
      exact (recorded.linked _).append ⟨rfl, rfl, differs⟩
    · exact recorded.linked submissionId
  · intro reviewId submissionId kind eventMember
    rw [serial]
    rw [events] at eventMember
    split at eventMember
    · rcases List.mem_append.mp eventMember with old | new
      · exact Nat.lt_succ_of_lt (recorded.sourcePks _ _ _ old)
      · simp only [Ledger.newReview, List.mem_singleton,
          SourceEvent.sandboxReview.injEq] at new
        rw [new.1]
        exact Nat.lt_succ_self _
    · exact Nat.lt_succ_of_lt (recorded.sourcePks _ _ _ eventMember)
  · intro publishes submissionId
    rw [Ledger.publishesReviews, same.identity, same.task] at publishes
    have before := recorded.published publishes submissionId
    rw [Db.reviewsOf_append reviews, events]
    by_cases sameSubmission : submission.pk = submissionId
    · subst sameSubmission
      rw [Ledger.newReview_submissionId, if_pos rfl,
        Chains.changes_append, Option.or_none, ← before]
      by_cases sameDecision :
          (db.reviewsOf submission.pk).getLast?.map AnswerReviewEvent.decision =
            some decision
      · simp [sameDecision, Ledger.newReview]
      · have isPublished : Ledger.publishesReviews db = true := publishes
        simp [sameDecision, isPublished, Ledger.newReview,
          List.countP_append, SourceEvent.isReviewOf]
    · rw [Ledger.newReview_submissionId, if_neg sameSubmission, ← before]
      split
      · simp [List.countP_append, SourceEvent.isReviewOf, sameSubmission]
      · rfl

theorem performed {transaction : Transaction} {reply : Reply}
    (submitted : SubmissionsRecorded db) (recorded : ReviewsRecorded db)
    (performed : Performed db transaction next reply) :
    ReviewsRecorded next := by
  obtain ⟨step, same⟩ := performed.answerStep
  cases step with
  | kept submissions reviews events serial =>
      exact recorded.keep same (fun row member => submissions ▸ member)
        reviews events serial
  | submitted _ _ _ _ _ _ _ submissions reviews events serial =>
      refine recorded.keep same ?_ reviews (.inl events) (Nat.le_of_lt serial)
      intro row member
      rw [submissions]
      exact List.mem_append_left _ member
  | reviewed _ submission _ _ _ _ _ current staff own isNew differs
      published submissions reviews serial =>
      have member : submission ∈ db.submissions :=
        List.mem_of_getLast? (submitted.current_getLast? current)
      exact recorded.review same member staff own isNew differs published
        submissions reviews serial

end ReviewsRecorded

end TicketSandbox.Sandbox
