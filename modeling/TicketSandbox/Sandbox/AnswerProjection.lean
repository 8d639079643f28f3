import TicketSandbox.Sandbox.ProjectionSteps
import TicketSandbox.Sandbox.SystemFacts

namespace TicketSandbox.Sandbox

/-!
# The reviewed answer repeats the ledger

What an attempt on review or passed shows of its answer against what the
ledger knows, over whole runs, and the posts that make the two differ.
-/

open Runs

/-- The decision of the last review of a submission. -/
def Db.lastDecision (db : Db) (submissionId : Pk) : MentorDecision :=
  ((db.reviewsOf submissionId).getLast?.map
    AnswerReviewEvent.decision).getD .notReviewed

variable {db next : Db} {generated : Uuid} {now : Timestamp}
  {event : Option AnswerReviewEvent} {coverage : AttemptCoverage}
  {transaction : Transaction} {reply : Reply} {system : System}
  {action : Action}

namespace Views

/-- The form is about the newest submission, and the stored text is its. -/
def isCurrent (db : Db) (post : MentorPost) : Bool :=
  match Rows.newest? AnswerSubmission.ordinal (Ledger.ownSubmissions db) with
  | none => post.submissionId.isNone
  | some submission =>
      decide
          (post.submissionId = none ∨ post.submissionId = some submission.pk) &&
        Ledger.draftIsSubmitted db submission

/-- `save_mentor_feedback` accepts the form and saves it for the first time. -/
def accepts (db : Db) (post : MentorPost) : Bool :=
  admits db post && isCurrent db post

variable {post : MentorPost}

theorem isCurrent_of_reviewed
    {recorded : Db} (review : Ledger.Reviewed db post.actor post.mentorDecision
        (strip post.feedback) post.submissionId post.operationId generated
        now recorded event) :
    isCurrent db post = true := by
  have ofCurrent {submission : AnswerSubmission}
      (current : Ledger.Current db post.submissionId submission) :
      isCurrent db post = true := by
    simp only [isCurrent, current.newest, current.submitted, Bool.and_true,
      decide_eq_true_eq]
    exact current.addressed
  cases review with
  | withoutSubmission missing unaddressed =>
      simp [isCurrent, missing, unaddressed]
  | replayed current _ _ _ _ => exact ofCurrent current
  | unchanged current _ _ _ _ _ => exact ofCurrent current
  | recorded current _ _ _ _ _ _ _ => exact ofCurrent current

/-- A reviewed attempt shows its last decision. -/
theorem lastDecision_of_reviewed {recorded : Db} (agrees : Agrees coverage db)
    (unused : db.isUnused generated = true) (admitted : admits db post = true)
    (review : Ledger.Reviewed db post.actor post.mentorDecision
        (strip post.feedback) post.submissionId post.operationId generated
        now recorded event) :
    recorded.submissions = db.submissions ∧
      ∀ latest, db.submissions.getLast? = some latest →
        Ledger.draftIsSubmitted db latest = true ∧
          recorded.lastDecision latest.pk = post.mentorDecision := by
  cases review with
  | withoutSubmission missing _ =>
      refine ⟨rfl, ?_⟩
      intro latest isLatest
      rw [agrees.submissions.ownSubmissions_eq,
        agrees.submissions.numbered.newest?_eq_getLast?, isLatest]
        at missing
      simp at missing
  | @replayed submission previous _ member parsed _ _ =>
      exfalso
      cases given : post.operationId with
      | absent =>
          rw [given, Ledger.operationId, Except.ok.injEq] at parsed
          simp only [Db.isUnused, parsed, Bool.and_eq_true,
            Bool.not_eq_true', List.any_eq_false, decide_eq_true_eq]
            at unused
          exact unused.1.1.1.1.2 previous member rfl
      | malformed =>
          rw [given] at parsed
          simp [Ledger.operationId] at parsed
      | given op =>
          rw [given, Ledger.operationId, Except.ok.injEq] at parsed
          have duplicate : duplicateReview db post = true := by
            simp only [duplicateReview, given, Bool.or_eq_true]
            exact .inr
              (List.any_eq_true.mpr ⟨previous, member, by simp [parsed]⟩)
          simp [admits, duplicate] at admitted
  | @unchanged submission last _ current _ _ _ found same =>
      refine ⟨rfl, ?_⟩
      intro latest isLatest
      rw [agrees.submissions.current_getLast? current] at isLatest
      obtain rfl := Option.some.inj isLatest
      refine ⟨current.submitted, ?_⟩
      have sameReviews :
          (db.reviewsOf submission.pk).getLast? = some last := found
      simp only [Db.lastDecision, Db.reviewsOf] at sameReviews ⊢
      rw [sameReviews]
      exact same.2.1
  | @recorded submission id events current _ _ _ _ _ _ _ =>
      refine ⟨rfl, ?_⟩
      intro latest isLatest
      rw [agrees.submissions.current_getLast? current] at isLatest
      obtain rfl := Option.some.inj isLatest
      refine ⟨current.submitted, ?_⟩
      rw [Db.lastDecision, Db.reviewsOf_append rfl,
        Ledger.newReview_submissionId, if_pos rfl, List.getLast?_concat]
      rfl

theorem reviewed_texts
    (attempt : TaskAttempt) (post : MentorPost) (now : Timestamp) :
    (reviewed attempt post now).clientAnswer = attempt.clientAnswer ∧
      (reviewed attempt post now).traineeReport = attempt.traineeReport ∧
      (reviewed attempt post now).mentorDecision = post.mentorDecision := by
  cases decision : post.mentorDecision <;> simp [reviewed, decision]

theorem reviewed_status
    (attempt : TaskAttempt) (post : MentorPost) (now : Timestamp) :
    (reviewed attempt post now).status =
      match post.mentorDecision with
      | .approved => .passed
      | .needsRevision => .failed
      | .notReviewed => attempt.status := by
  cases decision : post.mentorDecision <;> simp [reviewed, decision]

end Views

/-! ## A passed attempt is an approved one -/

/-- No accepted form without a decision reaches a passed attempt. -/
def NoCommentOnPassed (system : System) (action : Action) : Prop :=
  ∀ post generated now,
    system.transaction? action = some (.saveMentorFeedback post generated now) →
    Views.accepts system.db post = true →
    system.db.attempt.status = .passed →
    post.mentorDecision ≠ .notReviewed

/-- A passed attempt carries an approval. -/
def PassedIsApproved (db : Db) : Prop :=
  Checks.awaitsAnswer db = true ∧
    (db.attempt.status = .passed → db.attempt.mentorDecision = .approved)

theorem SameSubject.awaitsAnswer
    (same : SameSubject db next) (awaits : Checks.awaitsAnswer db = true) :
    Checks.awaitsAnswer next = true := by
  rw [Checks.awaitsAnswer, same.identity, same.task]
  exact awaits

theorem awaitsAnswer_created
    {identity : AttemptIdentity} {task : Task} {isStaff : Pk → Bool}
    {digest : Text → Text → Nat} {foreign : ForeignIds} {serial : Pk}
    (credit : identity.attemptNumber = 1)
    (reviewed : task.requiresManualReview = true) :
    Checks.awaitsAnswer
      (Db.created identity task isStaff digest foreign serial) = true := by
  simp [Checks.awaitsAnswer, Db.created, AttemptIdentity.isCreditAttempt,
    credit, reviewed]

theorem PassedIsApproved.step (approved : PassedIsApproved db)
    (performed : Performed db transaction next reply) (noComment :
      ∀ post generated now,
        transaction = .saveMentorFeedback post generated now →
        Views.accepts db post = true →
        db.attempt.status = .passed →
        post.mentorDecision ≠ .notReviewed) :
    PassedIsApproved next := by
  refine ⟨performed.answerStep.2.awaitsAnswer approved.1, ?_⟩
  intro passed
  cases performed.projectionStep approved.1 with
  | kept attempt _ _ =>
      rw [attempt.mentorDecision]
      exact approved.2 (attempt.status.symm.trans passed)
  | reopened status => exact (status (.inr passed)).elim
  | direct _ attempt =>
      rw [attempt] at passed ⊢
      exact approved.2 passed
  | submitted _ _ _ _ attempt _ _ =>
      rw [attempt] at passed
      simp [Views.submitted] at passed
  | @reviewed post generated now _ runs admitted _ review attempt _ _ =>
      rw [attempt, Views.reviewed_status] at passed
      rw [attempt, (Views.reviewed_texts _ _ _).2.2]
      cases decision : post.mentorDecision with
      | approved => rfl
      | needsRevision => simp [decision] at passed
      | notReviewed =>
          rw [decision] at passed
          have accepted : Views.accepts db post = true := by
            simp [Views.accepts, admitted, Views.isCurrent_of_reviewed review]
          exact (noComment post generated now runs accepted passed
            decision).elim

/--
While no comment without a decision is saved on a passed attempt, an attempt
that passed carries an approval.
-/
theorem reachable_passed_approved
    {identity : AttemptIdentity} {task : Task} (isStaff : Pk → Bool)
    (digest : Text → Text → Nat) (foreign : ForeignIds) {serial : Pk}
    (positive : 0 < serial) (credit : identity.attemptNumber = 1)
    (reviewed : task.requiresManualReview = true) {actions : List Action}
    {last : System} (run : Run System.step? NoCommentOnPassed (System.created
          (Db.created identity task isStaff digest foreign serial))
        actions last)
    (passed : last.db.attempt.status = .passed) :
    last.db.attempt.mentorDecision = .approved := by
  obtain ⟨coverage, _, _, initially⟩ :=
    System.Agrees.created identity task isStaff digest foreign positive
  have approved := System.Agrees.invariant PassedIsApproved
      (fun system action transaction reply next noComment runs _ _ performed
          approved =>
        approved.step performed fun post generated now same =>
          noComment post generated now (same ▸ runs))
      run initially
      ⟨awaitsAnswer_created credit reviewed, by
        simp [System.created, Db.created, TaskAttempt.created]⟩
  exact approved.2.2 passed

theorem Thread.transaction?_ne_feedback {thread : Thread} {supply : Supply}
    {post : Views.MentorPost} :
    thread.transaction? db supply ≠
      some (.saveMentorFeedback post generated now) := by
  unfold Thread.transaction?
  split <;> simp

/-- The action posts a mentor's form without a decision. -/
def Action.isComment : Action → Bool
  | .call (.saveMentorFeedback post _ _) =>
      decide (post.mentorDecision = .notReviewed)
  | _ => false

theorem noCommentOnPassed_of_isComment
    (silent : action.isComment = false) : NoCommentOnPassed system action := by
  intro post generated now runs _ _ noDecision
  cases action with
  | call transaction =>
      simp only [System.transaction?] at runs
      split at runs <;> cases runs
      simp [Action.isComment, noDecision] at silent
  | commit thread supply => exact Thread.transaction?_ne_feedback runs
  | _ => simp [System.transaction?] at runs

/-- A check of a fresh attempt that passes. -/
def checkPasses : List Action :=
  [.call (.tryMarkCheck .absent 7 0 0), .enter 0 (.deliverCheck 7),
    .commit 0 (.clock 1),
    .read 0,
    .commit 0 (.outcome (.exited (some 0) "ok") 2)]

/-- A complete answer after the passed check, sent for review. -/
def answerSent : List Action :=
  checkPasses ++ [.enter 1 (.checkTask
          { clientAnswer := ['a']
            traineeReport := ['r']
            operationId := .given 20 }
          true),
      .read 1,
      .commit 1 (.clock 3),
      .commit 1 (.reviewer true 0 4)]

/-- A mentor's form about the first submission. -/
def mentorPost (decision : Option MentorDecision)
    (operationId : Uuid) : Views.MentorPost where
  actor := 9
  decision := decision
  feedback := ['f']
  submissionId := some 2
  operationId := .given operationId

/-- The answer is sent and approved. -/
def answerApproved : List Action :=
  answerSent ++
    [.call (.saveMentorFeedback (mentorPost (some .approved) 30) 0 5)]

theorem reachable_passed_approved_answerApproved :
    ∃ last : System, last.db.attempt.status = .passed ∧
        last.db.attempt.mentorDecision = .approved := by
  refine ⟨(run? System.step? System.firstAttempt answerApproved).get
        (by decide), by decide, ?_⟩
  refine reachable_passed_approved _ _ _ (by decide) rfl rfl
    (run?_get ?_ (by decide)) (by decide)
  have silent : ∀ action ∈ answerApproved, action.isComment = false := by
    decide
  intro system action member
  exact noCommentOnPassed_of_isComment (silent action member)

/-- A comment without a decision on the approved answer. -/
def commentAfterApproval : List Action :=
  answerApproved ++ [.call (.saveMentorFeedback (mentorPost none 31) 0 6)]

/-- The comment leaves the attempt passed and takes the approval away. -/
theorem commentAfterApproval_notApproved :
    ∃ last : System, Run System.step? anything System.firstAttempt
          commentAfterApproval last ∧
        last.db.attempt.status = .passed ∧
        last.db.attempt.mentorDecision = .notReviewed :=
  ⟨_, run?_get (fun _ _ _ => trivial) (by decide), by decide,
    by decide⟩

/-! ## A reviewed attempt shows its newest submission -/

/-- The saved texts carry no surrounding whitespace. -/
def HasStrippedTexts (attempt : TaskAttempt) : Prop :=
  strip attempt.clientAnswer = attempt.clientAnswer ∧
    strip attempt.traineeReport = attempt.traineeReport

/--
The posts that keep a reviewed attempt and its newest submission together.
The ledger is written through the form views only.  An accepted approval finds
stripped texts, and a submission under a recorded operation identity is the
newest one, has the posted texts, and has no decision yet.
-/
structure KeepsProjection (system : System) (action : Action) : Prop where
  throughViews : ∀ transaction, system.transaction? action = some transaction →
      transaction.isDirect = false
  approvals : ∀ post generated now, system.transaction? action =
        some (.saveMentorFeedback post generated now) →
      Views.accepts system.db post = true →
      post.mentorDecision = .approved →
      system.db.submissions ≠ [] →
      HasStrippedTexts system.db.attempt
  resubmissions : ∀ copy post aiAvailable generated now,
      system.transaction? action =
        some (.submitForReview copy post aiAvailable generated now) →
      Views.answerIsFixed system.db = false →
      ∀ old ∈ system.db.submissions,
        Ledger.operationId post.operationId generated = .ok old.operationId →
        old.digest = system.db.digest post.clientAnswer post.traineeReport →
        system.db.submissions.getLast? = some old ∧
          old.clientAnswer = post.clientAnswer ∧
          old.traineeReport = post.traineeReport ∧
          system.db.lastDecision old.pk = .notReviewed

/-- The columns of the attempt repeat the submission and its last review. -/
structure Shows (db : Db) (submission : AnswerSubmission) : Prop where
  clientAnswer : db.attempt.clientAnswer = strip submission.clientAnswer
  traineeReport : db.attempt.traineeReport = strip submission.traineeReport
  mentorDecision : db.attempt.mentorDecision = db.lastDecision submission.pk

/-- A reviewed attempt shows its newest submission. -/
def Projected (db : Db) : Prop :=
  db.attempt.IsReviewed →
  ∀ latest, db.submissions.getLast? = some latest → Shows db latest

theorem Projected.ofSame (projected : Projected db)
    (attempt : SameProjection db.attempt next.attempt)
    (submissions : next.submissions = db.submissions)
    (reviews : next.reviews = db.reviews) :
    Projected next := by
  intro reviewed latest isLatest
  rw [TaskAttempt.IsReviewed, attempt.status] at reviewed
  rw [submissions] at isLatest
  have shows := projected reviewed latest isLatest
  refine ⟨attempt.clientAnswer.trans shows.clientAnswer,
      attempt.traineeReport.trans shows.traineeReport, ?_⟩
  rw [attempt.mentorDecision, shows.mentorDecision, Db.lastDecision,
    Db.lastDecision, Db.reviewsOf, Db.reviewsOf, reviews]

theorem lastDecision_new
    (submissions : SubmissionsRecorded db) (recorded : ReviewsRecorded db) :
    db.lastDecision db.serial = .notReviewed := by
  have none : db.reviewsOf db.serial = [] := by
    refine List.filter_eq_nil_iff.mpr ?_
    intro event member same
    obtain ⟨row, rowMember, about⟩ := recorded.about event member
    have below := submissions.pks row rowMember
    rw [← about, of_decide_eq_true same] at below
    exact Nat.lt_irrefl _ below
  rw [Db.lastDecision, none]
  rfl

theorem Projected.submit
    {recorded : Db} {post : Views.AnswerPost} {submission : AnswerSubmission}
    {created : Bool} (submitted : SubmissionsRecorded db)
    (reviewed : ReviewsRecorded db) (submits :
      Ledger.Submitted db post.clientAnswer post.traineeReport
        post.operationId generated now recorded submission created)
    (attempt : next.attempt = Views.submitted db.attempt post now)
    (submissions : next.submissions = recorded.submissions)
    (reviews : next.reviews = recorded.reviews)
    (resubmission : ∀ old ∈ db.submissions,
        Ledger.operationId post.operationId generated = .ok old.operationId →
        old.digest = db.digest post.clientAnswer post.traineeReport →
        db.submissions.getLast? = some old ∧
          old.clientAnswer = post.clientAnswer ∧
          old.traineeReport = post.traineeReport ∧
          db.lastDecision old.pk = .notReviewed) :
    Projected next := by
  intro _ latest isLatest
  have shown (sameAnswer : latest.clientAnswer = post.clientAnswer)
      (sameReport : latest.traineeReport = post.traineeReport)
      (undecided : next.lastDecision latest.pk = .notReviewed) :
      Shows next latest := by
    refine ⟨?_, ?_, ?_⟩
    · rw [attempt, sameAnswer]
      rfl
    · rw [attempt, sameReport]
      rfl
    · rw [attempt, undecided]
      rfl
  have sameReviews : next.reviews = db.reviews := by
    rw [reviews]
    cases submits with
    | repeated _ _ _ => rfl
    | created _ _ _ _ => rfl
  have sameDecision (pk : Pk) : next.lastDecision pk = db.lastDecision pk := by
    rw [Db.lastDecision, Db.lastDecision, Db.reviewsOf, Db.reviewsOf,
      sameReviews]
  cases submits with
  | repeated member parsed content =>
      obtain ⟨newest, sameAnswer, sameReport, undecided⟩ :=
        resubmission submission member parsed content
      rw [submissions, newest] at isLatest
      obtain rfl := Option.some.inj isLatest
      exact shown sameAnswer sameReport ((sameDecision _).trans undecided)
  | created _ _ _ _ =>
      rw [submissions, List.getLast?_concat] at isLatest
      obtain rfl := Option.some.inj isLatest
      exact shown rfl rfl
        ((sameDecision _).trans (lastDecision_new submitted reviewed))

theorem Projected.review
    {recorded : Db} {post : Views.MentorPost} (projected : Projected db)
    (agrees : Agrees coverage db) (unused : db.isUnused generated = true)
    (admitted : Views.admits db post = true) (review :
      Ledger.Reviewed db post.actor post.mentorDecision
        (strip post.feedback) post.submissionId post.operationId generated
        now recorded event)
    (attempt : next.attempt = Views.reviewed db.attempt post now)
    (submissions : next.submissions = recorded.submissions)
    (reviews : next.reviews = recorded.reviews)
    (stripped : post.mentorDecision = .approved → db.submissions ≠ [] →
      HasStrippedTexts db.attempt) :
    Projected next := by
  intro isReviewed latest isLatest
  obtain ⟨sameSubmissions, onLatest⟩ :=
    Views.lastDecision_of_reviewed agrees unused admitted review
  rw [submissions, sameSubmissions] at isLatest
  obtain ⟨submitted, decided⟩ := onLatest latest isLatest
  obtain ⟨sameAnswer, sameReport, sameDecision⟩ :=
    Views.reviewed_texts db.attempt post now
  have texts : db.attempt.clientAnswer = strip latest.clientAnswer ∧
        db.attempt.traineeReport = strip latest.traineeReport := by
    by_cases already : db.attempt.IsReviewed
    · have shows := projected already latest isLatest
      exact ⟨shows.clientAnswer, shows.traineeReport⟩
    · have status := Views.reviewed_status db.attempt post now
      have approved : post.mentorDecision = .approved := by
        rw [attempt] at isReviewed
        cases decision : post.mentorDecision with
        | approved => rfl
        | needsRevision =>
            rw [TaskAttempt.IsReviewed, status, decision] at isReviewed
            simp at isReviewed
        | notReviewed =>
            rw [TaskAttempt.IsReviewed, status, decision] at isReviewed
            exact (already isReviewed).elim
      obtain ⟨strippedAnswer, strippedReport⟩ := stripped approved (by
          intro empty
          simp [empty] at isLatest)
      simp only [Ledger.draftIsSubmitted, Bool.and_eq_true,
        decide_eq_true_eq] at submitted
      exact ⟨strippedAnswer.symm.trans submitted.1,
          strippedReport.symm.trans submitted.2⟩
  refine ⟨?_, ?_, ?_⟩
  · rw [attempt, sameAnswer, texts.1]
  · rw [attempt, sameReport, texts.2]
  · rw [attempt, sameDecision, ← decided, Db.lastDecision,
      Db.lastDecision, Db.reviewsOf, Db.reviewsOf, reviews]

theorem Projected.step (awaits : Checks.awaitsAnswer system.db = true)
    (projected : Projected system.db) (agrees : Agrees coverage system.db)
    (keeps : KeepsProjection system action)
    (runs : system.transaction? action = some transaction)
    (unused : system.db.drawsUnused transaction = true)
    (performed : Performed system.db transaction next reply) :
    Projected next := by
  cases performed.projectionStep awaits with
  | kept attempt submissions reviews =>
      exact projected.ofSame attempt submissions reviews
  | reopened status =>
      intro isReviewed
      exact (status isReviewed).elim
  | direct isDirect _ =>
      rw [keeps.throughViews transaction runs] at isDirect
      simp at isDirect
  | @submitted copy post aiAvailable generated now _ _ same editable _
      submits attempt submissions reviews =>
      subst same
      exact .submit agrees.submissions agrees.reviews submits attempt
        submissions reviews
        (keeps.resubmissions copy post aiAvailable generated now runs editable)
  | @reviewed post generated now _ same admitted _ review attempt
      submissions reviews =>
      subst same
      have isUnused : system.db.isUnused generated = true := by
        simpa [Db.drawsUnused, Transaction.generated?] using unused
      have accepted : Views.accepts system.db post = true := by
        simp [Views.accepts, admitted, Views.isCurrent_of_reviewed review]
      exact projected.review agrees isUnused admitted review attempt
        submissions reviews
        (keeps.approvals post generated now runs accepted)

theorem Projected.notReported
    (agrees : Agrees coverage db) (projected : Projected db) :
    .submittedTextMismatch ∉ LedgerEvidence.reasons db ∧
      .reviewProjectionMismatch ∉ LedgerEvidence.reasons db := by
  constructor
  · intro found
    cases LedgerEvidence.reasons_reported found with
    | submittedTextMismatch latest isLatest reviewed differs =>
        rw [LedgerEvidence.orderedSubmissions_eq agrees.submissions] at isLatest
        have shows := projected reviewed latest isLatest
        rw [shows.clientAnswer, shows.traineeReport] at differs
        exact differs rfl
  · intro found
    cases LedgerEvidence.reasons_reported found with
    | reviewProjectionMismatch latest isLatest reviewed differs =>
        rw [LedgerEvidence.orderedSubmissions_eq agrees.submissions] at isLatest
        have shows := projected reviewed latest isLatest
        rw [LedgerEvidence.orderedReviews_eq agrees.reviews] at differs
        exact differs shows.mentorDecision

/--
Within these posts an attempt on review or passed shows its newest submission
and the decision of its last review, and the evidence reports no difference.
-/
theorem reachable_projected
    {identity : AttemptIdentity} {task : Task} (isStaff : Pk → Bool)
    (digest : Text → Text → Nat) (foreign : ForeignIds) {serial : Pk}
    (positive : 0 < serial) (credit : identity.attemptNumber = 1)
    (reviewed : task.requiresManualReview = true) {actions : List Action}
    {last : System} (run : Run System.step? KeepsProjection (System.created
          (Db.created identity task isStaff digest foreign serial))
        actions last) :
    (last.db.attempt.IsReviewed →
        ∀ latest, last.db.latestSubmission = some latest →
          Shows last.db latest) ∧
      ∀ reason ∈ [LedgerEvidence.EvidenceReason.submittedTextMismatch,
            .reviewProjectionMismatch],
        reason.text ∉ (LedgerEvidence.attemptEvidence last.db).reasons := by
  obtain ⟨coverage, _, _, initially⟩ :=
    System.Agrees.created identity task isStaff digest foreign positive
  obtain ⟨agrees, _, projected⟩ := System.Agrees.invariant (fun db =>
        Checks.awaitsAnswer db = true ∧ Projected db)
      (fun system action transaction reply next keeps runs agrees unused
          performed held =>
        ⟨performed.answerStep.2.awaitsAnswer held.1,
          held.2.step held.1 agrees keeps runs unused performed⟩)
      run initially
      ⟨awaitsAnswer_created credit reviewed, by
        intro _ latest isLatest
        simp [System.created, Db.created] at isLatest⟩
  refine ⟨?_, ?_⟩
  · rw [agrees.db.submissions.latestSubmission_eq]
    exact projected
  · intro reason member
    rw [LedgerEvidence.mem_attemptEvidence_reasons]
    have silent := projected.notReported agrees.db
    rcases List.mem_cons.mp member with rfl | isLast
    · exact silent.1
    · rw [List.mem_singleton.mp isLast]
      exact silent.2

/-- The action sends at most a first submission and posts no mentor's form. -/
def sendsFirst (system : System) (action : Action) : Bool :=
  match system.transaction? action with
  | some (.submitForReview ..) => system.db.submissions.isEmpty
  | some (.saveMentorFeedback ..) => false
  | some transaction => !transaction.isDirect
  | none => true

theorem keepsProjection_of_sendsFirst
    (first : sendsFirst system action = true) :
    KeepsProjection system action := by
  refine ⟨?_, ?_, ?_⟩
  · intro transaction runs
    simp only [sendsFirst, runs] at first
    cases transaction <;> first | rfl | simp [Transaction.isDirect] at first
  · intro post generated now runs
    simp [sendsFirst, runs] at first
  · intro copy post aiAvailable generated now runs _ old member
    simp only [sendsFirst, runs, List.isEmpty_iff] at first
    simp [first] at member

theorem reachable_projected_answerSent :
    ∃ last : System, last.db.attempt.status = .onReview ∧
        (last.db.attempt.IsReviewed →
          ∀ latest, last.db.latestSubmission = some latest →
            Shows last.db latest) ∧
        ∀ reason ∈ [LedgerEvidence.EvidenceReason.submittedTextMismatch,
              .reviewProjectionMismatch],
          reason.text ∉ (LedgerEvidence.attemptEvidence last.db).reasons := by
  refine ⟨(run? (guarded sendsFirst System.step?) System.firstAttempt
        answerSent).get (by decide), by decide, ?_⟩
  exact reachable_projected _ _ _ (by decide) rfl rfl
    (run?_guarded (fun _ _ => keepsProjection_of_sendsFirst)
      (Option.some_get _).symm)

/--
The answer is returned, the same words are saved as a draft with a space in
front, the reviewer fails, and the mentor approves the first submission.
-/
def approvedOverDraft : List Action :=
  answerSent ++
    [.call (.saveMentorFeedback (mentorPost (some .needsRevision) 30) 0 5),
      .enter 2 (.checkTask
          { clientAnswer := [' ', 'a']
            traineeReport := ['r']
            operationId := .given 21 }
          true),
      .read 2,
      .commit 2 (.clock 6),
      .commit 2 (.reviewer false 0 7),
      .call (.saveMentorFeedback (mentorPost (some .approved) 31) 0 8)]

/-- The passed attempt shows the draft, and the evidence reports it. -/
theorem approvedOverDraft_reported :
    ∃ last : System, Run System.step? anything System.firstAttempt
          approvedOverDraft last ∧
        last.db.attempt.status = .passed ∧
        last.db.attempt.clientAnswer = [' ', 'a'] ∧
        last.db.latestSubmission.map AnswerSubmission.clientAnswer =
          some ['a'] ∧
        .submittedTextMismatch ∈ LedgerEvidence.reasons last.db :=
  ⟨_, run?_get (fun _ _ _ => trivial) (by decide), by decide,
    by decide, by decide, by decide⟩

/-! ## A pass is final -/

theorem CheckStep.length_of_passed (step : CheckStep db transaction next)
    (passed : db.technicalPassed = true) :
    next.checks.length = db.checks.length := by
  rcases step.shape with
    ⟨_, _, may, _⟩ | ⟨_, _, _, facts⟩ | ⟨_, rewritten⟩
  · simp [Checks.mayStartCheck, passed] at may
  · rw [facts.checks, Rows.length_modify]
  · exact rewritten.length_eq

/-- Once an attempt is passed, nothing takes the pass back and no check is
requested any more; the ledger holds an execution that ended with the pass. -/
theorem reachable_passed_final (identity : AttemptIdentity) (task : Task)
    (isStaff : Pk → Bool) (digest : Text → Text → Nat) (foreign : ForeignIds)
    {serial : Pk} (positive : 0 < serial) {history between : List Action}
    {first last : System} (reached : Run System.step? anything (System.created
          (Db.created identity task isStaff digest foreign serial))
        history first)
    (passed : first.db.technicalPassed = true)
    (run : Run System.step? anything first between last) :
    last.db.technicalPassed = true ∧
      last.db.checks.length = first.db.checks.length ∧
      last.db.attempt.attemptsCount = first.db.attempt.attemptsCount ∧
      ∃ row ∈ last.db.checks, ∃ finish,
        row.FinishedBy finish ∧ finish.result = .passed := by
  obtain ⟨coverage, _, _, initially⟩ :=
    System.Agrees.created identity task isStaff digest foreign positive
  have agrees := initially.run reached
  obtain ⟨later, isPassed, length⟩ := System.Agrees.invariant
      (fun db => db.technicalPassed = true ∧
        db.checks.length = first.db.checks.length)
      (fun _ _ _ _ _ _ _ before _ performed ⟨held, length⟩ =>
        have step := performed.checkStep before.checks.uniqueRuns
        ⟨step.technicalPassed held, (step.length_of_passed held).trans length⟩)
      run agrees ⟨passed, rfl⟩
  refine ⟨isPassed, length, ?_, later.db.checks.passedExecution isPassed⟩
  rw [later.db.checks.counted, length, agrees.db.checks.counted]

/-- Another check is asked for after the pass. -/
theorem reachable_passed_final_again :
    ∃ last : System, last.db.technicalPassed = true ∧
        last.db.checks.length = 1 := by
  have final := reachable_passed_final _ _ _ _ _ (by decide)
    (run_after (fun _ _ _ => trivial) (by decide) :
      Run System.step? anything System.firstAttempt checkPasses
        (after System.step? System.firstAttempt checkPasses))
    (by decide)
    (run_after (fun _ _ _ => trivial) (by decide) :
      Run System.step? anything _ [.call (.tryMarkCheck .absent 8 3 3)] _)
  exact ⟨_, final.1, final.2.1.trans (by decide)⟩

end TicketSandbox.Sandbox
