import Mathlib.Algebra.GroupWithZero.Nat
import TicketSandbox.Assessment.AnswerGrading

namespace TicketSandbox.Assessment.QuestionFlow

/-!
# Opening and answering questions

`services/answers.py` and `services/question_flow.py`.  Every call is one
transaction; a call that raises is rolled back.
-/

open Raises
open Sandbox (Pk Timestamp)
open AnswerGrading

/-- The microseconds of a second. -/
def second : Timestamp := 1000000

/-- `get_question_deadline` of an open question. -/
def deadline (snapshot : ExamQuestionSnapshot) (startedAt : Timestamp) :
    Timestamp :=
  startedAt + snapshot.timeLimitSeconds * second

/-- The whole seconds since the question was opened. -/
def elapsedSeconds (startedAt now : Timestamp) : Nat :=
  (Int.tdiv (now - startedAt) second).toNat

/-- The answer of a payload that was graded in time. -/
def gradedAnswer
    (snapshot : ExamQuestionSnapshot) (response : Json) (score : Percentage)
    (responseTimeSeconds : Nat) : ExamAnswer where
  snapshotId := snapshot.pk
  responsePayload := response
  scorePercentage := score
  isCorrect := decide (score = hundred)
  timedOut := false
  responseTimeSeconds := responseTimeSeconds

/-- The answer of a question whose time ran out. -/
def timedOutAnswer (snapshot : ExamQuestionSnapshot)
    (responseTimeSeconds : Nat) : ExamAnswer where
  snapshotId := snapshot.pk
  responsePayload := .object []
  scorePercentage := 0
  isCorrect := false
  timedOut := true
  responseTimeSeconds := responseTimeSeconds

/-- `existing_answer.save`. -/
def saveAnswer (db : Db) (answer : ExamAnswer) : Db :=
  { db with
    answers := Rows.modify ExamAnswer.snapshotId answer.snapshotId
        (fun _ => answer) db.answers }

/-- `ExamAnswer.objects.create`. -/
def createAnswer (db : Db) (answer : ExamAnswer) : Db :=
  { db with answers := db.answers ++ [answer] }

/-- The branch of `submit_exam_answer` that answers a question again. -/
def answerAgain
    (db : Db) (snapshot : ExamQuestionSnapshot) (startedAt : Timestamp)
    (response : Json) (now : Timestamp) : Except Failure Db := do
  ensure db.attempt.allowBackNavigation
    (.validation "Ответ на этот вопрос уже отправлен.")
  ensure (now < deadline snapshot startedAt)
    (.validation "Время на этот вопрос уже закончилось.")
  let score ← gradeSnapshotAnswer snapshot response
  return saveAnswer db
    (gradedAnswer snapshot response score (elapsedSeconds startedAt now))

/-- The branch of `submit_exam_answer` that answers a question first. -/
def answerFirst
    (db : Db) (snapshot : ExamQuestionSnapshot) (startedAt : Timestamp)
    (response : Json) (now : Timestamp) : Except Failure Db := do
  let responseTime :=
    min (elapsedSeconds startedAt now) snapshot.timeLimitSeconds
  if deadline snapshot startedAt ≤ now then
    return createAnswer db (timedOutAnswer snapshot responseTime)
  else
    let score ← gradeSnapshotAnswer snapshot response
    return createAnswer db (gradedAnswer snapshot response score responseTime)

/-- `submit_exam_answer`. -/
def submitExamAnswer (db : Db) (snapshotId : Pk) (response : Json)
    (now : Timestamp) : Except Failure Db := do
  let snapshot ← required .doesNotExist (db.snapshot? snapshotId)
  ensure (db.attempt.status = .inProgress)
    (.validation "Эта попытка уже не активна.")
  let startedAt ← required
    (.validation "Вопрос ещё не был открыт.") snapshot.startedAt
  if db.isAnswered snapshotId then
    answerAgain db snapshot startedAt response now
  else
    answerFirst db snapshot startedAt response now

/-- `get_current_question`. -/
def currentQuestion? (db : Db) : Option ExamQuestionSnapshot :=
  db.snapshots.find? fun snapshot => !db.isAnswered snapshot.pk

/-- The snapshot with its start saved. -/
def openSnapshot (db : Db) (snapshotId : Pk) (now : Timestamp) : Db :=
  { db with
    snapshots := Rows.modify ExamQuestionSnapshot.pk snapshotId
        (fun snapshot => { snapshot with startedAt := some now })
        db.snapshots }

/--
The loop of `open_current_question`, with a bound on its rounds.  The answer
names the question that is open after it.
-/
def openLoop : Nat → Db → Timestamp → Except Failure (Db × Option Pk)
  | 0, _, _ => .error .unfinished
  | rounds + 1, db, now =>
      match currentQuestion? db with
      | none => .ok (db, none)
      | some snapshot =>
          match snapshot.startedAt with
          | none => .ok (openSnapshot db snapshot.pk now, some snapshot.pk)
          | some startedAt =>
              if now < deadline snapshot startedAt then
                .ok (db, some snapshot.pk)
              else do
                let answered ← submitExamAnswer db snapshot.pk (.object []) now
                openLoop rounds answered now

/-- `open_current_question`. -/
def openCurrentQuestion
    (db : Db) (now : Timestamp) : Except Failure (Db × Option Pk) :=
  if db.attempt.status = .inProgress then
    openLoop (db.snapshots.length + 1) db now
  else
    .ok (db, none)

end TicketSandbox.Assessment.QuestionFlow

namespace TicketSandbox.Assessment.Results

/-!
# Results

`services/results.py`: completing an attempt and computing its result from the
stored answers.
-/

open Raises
open Sandbox (Pk Timestamp)

/-- `_average_score`, rounded half up. -/
def averageScore (scores : List Percentage) : Percentage :=
  if scores.isEmpty then 0
  else (2 * scores.sum + scores.length) / (2 * scores.length)

/-- An answer together with its snapshot. -/
structure AnsweredQuestion where
  snapshot : ExamQuestionSnapshot
  answer : ExamAnswer

/-- The answers of the attempt, in the order of their positions. -/
def answeredQuestions (db : Db) : List AnsweredQuestion :=
  db.snapshots.filterMap fun snapshot =>
    (db.answer? snapshot.pk).map fun answer =>
      { snapshot := snapshot, answer := answer }

/-- The keys in the order of their first occurrence. -/
def firstOccurrences (names : List String) : List String :=
  names.reverse.dedup.reverse

/-- The questions that are counted under a slug. -/
def underSlug (slug : ExamQuestionSnapshot → String) (name : String)
    (answers : List AnsweredQuestion) : List AnsweredQuestion :=
  answers.filter fun question => decide (slug question.snapshot = name)

variable (answers : List AnsweredQuestion)

/-- The scores of the questions. -/
def scores : List Percentage :=
  answers.map fun question => question.answer.scorePercentage

/--
A column of the snapshots under one slug.  Every question overwrites it, so
the last one stays.
-/
def lastColumn (column : ExamQuestionSnapshot → String)
    (answers : List AnsweredQuestion) : String :=
  (answers.getLast?.map fun question => column question.snapshot).getD ""

/-- The `topic_breakdown` of `_build_breakdown`. -/
def topicBreakdown : List (String × TopicBreakdown) :=
  (firstOccurrences
    (answers.map fun question => question.snapshot.topicSlug)).map
    fun name =>
      let own := underSlug ExamQuestionSnapshot.topicSlug name answers
      (name,
        { name := lastColumn ExamQuestionSnapshot.topicName own
          questionCount := own.length
          scorePercentage := averageScore (scores own) })

/-- The `skill_breakdown` of `_build_breakdown`. -/
def skillBreakdown : List (String × SkillBreakdown) :=
  (firstOccurrences
    (answers.map fun question => question.snapshot.skillSlug)).map
    fun name =>
      let own := underSlug ExamQuestionSnapshot.skillSlug name answers
      (name,
        { name := lastColumn ExamQuestionSnapshot.skillName own
          topicSlug := lastColumn ExamQuestionSnapshot.topicSlug own
          topicName := lastColumn ExamQuestionSnapshot.topicName own
          questionCount := own.length
          scorePercentage := averageScore (scores own) })

/-- The result that the stored answers amount to. -/
def resultOf (db : Db) : AssessmentResult :=
  let answers := answeredQuestions db
  let score := averageScore (scores answers)
  { scorePercentage := score
    passed := decide (db.attempt.passPercentage * 100 ≤ score)
    totalQuestions := db.snapshots.length
    fullyCorrectQuestions :=
      answers.countP fun question => question.answer.isCorrect
    topicBreakdown := topicBreakdown answers
    skillBreakdown := skillBreakdown answers }

/-- The part of `complete_exam_attempt` for an attempt in progress. -/
def complete (db : Db)
    (now : Timestamp) : Except Failure (Db × AssessmentResult × Bool) := do
  ensure (db.snapshots ≠ []) (.validation "В попытке нет вопросов.")
  ensure ((answeredQuestions db).length = db.snapshots.length)
    (.validation ("Нельзя завершить тест: отвечено " ++
        toString (answeredQuestions db).length ++ " из " ++
        toString db.snapshots.length ++ " вопросов."))
  let result := resultOf db
  return ({ db with
    attempt :=
      { db.attempt with status := .completed, completedAt := some now }
    results := db.results ++ [result] }, result, true)

/-- `complete_exam_attempt`. -/
def completeExamAttempt (db : Db)
    (now : Timestamp) : Except Failure (Db × AssessmentResult × Bool) :=
  match db.attempt.status with
  | .invalidated =>
      .error (.validation "Аннулированную попытку нельзя завершить.")
  | .completed =>
      match db.results.head? with
      | some result => .ok (db, result, false)
      | none =>
          .error (.validation
              "Попытка отмечена завершённой, но результат отсутствует.")
  | .inProgress => complete db now

end TicketSandbox.Assessment.Results

namespace TicketSandbox.Assessment

/-!
# What the exam services write

Every call is a sequence of small writes: the start of a question, an answer,
an answer given again, and the completion of the attempt.
-/

open Raises
open Sandbox (Pk Timestamp)
open AnswerGrading QuestionFlow Results

/-- The attempt with its result, as completing it leaves it. -/
def completed (db : Db) (now : Timestamp) : Db :=
  { db with
    attempt :=
      { db.attempt with status := .completed, completedAt := some now }
    results := db.results ++ [resultOf db] }

/-- One write to the tables of an attempt. -/
inductive Write (now : Timestamp) (db : Db) : Db → Prop where
  | started (snapshot : ExamQuestionSnapshot)
      (active : db.attempt.status = .inProgress)
      (current : currentQuestion? db = some snapshot)
      (unstarted : snapshot.startedAt = none) :
      Write now db (openSnapshot db snapshot.pk now)
  | answered (snapshot : ExamQuestionSnapshot) (startedAt : Timestamp)
      (answer : ExamAnswer)
      (active : db.attempt.status = .inProgress)
      (member : snapshot ∈ db.snapshots)
      (started : snapshot.startedAt = some startedAt)
      (fresh : db.isAnswered snapshot.pk = false)
      (about : answer.snapshotId = snapshot.pk)
      (late : answer.timedOut = true →
        answer.scorePercentage = 0 ∧ deadline snapshot startedAt ≤ now) :
      Write now db (createAnswer db answer)
  | answeredAgain (snapshot : ExamQuestionSnapshot) (startedAt : Timestamp)
      (answer : ExamAnswer)
      (active : db.attempt.status = .inProgress)
      (member : snapshot ∈ db.snapshots)
      (started : snapshot.startedAt = some startedAt)
      (about : answer.snapshotId = snapshot.pk)
      (inTime : now < deadline snapshot startedAt)
      (graded : answer.timedOut = false) :
      Write now db (saveAnswer db answer)
  | completed (active : db.attempt.status = .inProgress)
      (all : (answeredQuestions db).length = db.snapshots.length) :
      Write now db (completed db now)

/-- A sequence of writes at one time. -/
def Writes (now : Timestamp) : Db → Db → Prop :=
  Relation.ReflTransGen (Write now)

variable {db next : Db} {now : Timestamp}

namespace Db

theorem snapshot?_some {pk : Pk} {snapshot : ExamQuestionSnapshot}
    (found : db.snapshot? pk = some snapshot) :
    snapshot ∈ db.snapshots ∧ snapshot.pk = pk :=
  ⟨List.mem_of_find?_eq_some found, by
    simpa using List.find?_some found⟩

/-- A snapshot is answered when the table has an answer to it. -/
theorem isAnswered_iff {pk : Pk} :
    db.isAnswered pk = true ↔ pk ∈ db.answers.map ExamAnswer.snapshotId := by
  simp [isAnswered, answer?]

end Db

namespace QuestionFlow

theorem isAnswered_createAnswer {answer : ExamAnswer} {pk : Pk} :
    (createAnswer db answer).isAnswered pk = true ↔
      db.isAnswered pk = true ∨ answer.snapshotId = pk := by
  simp only [Db.isAnswered_iff, createAnswer, List.map_append,
    List.mem_append, List.map_cons, List.map_nil, List.mem_singleton]
  exact or_congr_right eq_comm

theorem answerIds_saveAnswer (db : Db) (answer : ExamAnswer) :
    (saveAnswer db answer).answers.map ExamAnswer.snapshotId =
      db.answers.map ExamAnswer.snapshotId :=
  Rows.map_modify fun _ _ same => same.symm

theorem isAnswered_saveAnswer {answer : ExamAnswer} {pk : Pk} :
    (saveAnswer db answer).isAnswered pk = true ↔ db.isAnswered pk = true := by
  rw [Db.isAnswered_iff, Db.isAnswered_iff, answerIds_saveAnswer]

variable {startedAt : Timestamp} {response : Json} {opened : Option Pk}
  {snapshot : ExamQuestionSnapshot}

theorem answerAgain_write (active : db.attempt.status = .inProgress)
    (member : snapshot ∈ db.snapshots)
    (started : snapshot.startedAt = some startedAt)
    (returned : answerAgain db snapshot startedAt response now = .ok next) :
    Write now db next := by
  simp only [answerAgain, bind_ok, ensure_ok] at returned
  obtain ⟨_, _, _, inTime, score, _, saved⟩ := returned
  cases saved
  exact .answeredAgain snapshot startedAt _ active member started rfl inTime rfl

theorem answerFirst_write (active : db.attempt.status = .inProgress)
    (member : snapshot ∈ db.snapshots)
    (started : snapshot.startedAt = some startedAt)
    (fresh : db.isAnswered snapshot.pk = false)
    (returned : answerFirst db snapshot startedAt response now = .ok next) :
    Write now db next := by
  simp only [answerFirst] at returned
  split at returned
  · rename_i late
    cases returned
    exact .answered snapshot startedAt _ active member started fresh rfl
      fun _ => ⟨rfl, late⟩
  · obtain ⟨score, _, created⟩ := bind_ok.mp returned
    cases created
    exact .answered snapshot startedAt _ active member started fresh rfl nofun

theorem submitExamAnswer_attempt {snapshotId : Pk}
    (returned : submitExamAnswer db snapshotId response now = .ok next) :
    next.attempt = db.attempt := by
  simp only [submitExamAnswer, bind_ok, ensure_ok, required_ok] at returned
  obtain ⟨snapshot, _, _, _, startedAt, _, branch⟩ := returned
  split at branch
  · simp only [answerAgain, bind_ok, ensure_ok] at branch
    obtain ⟨_, _, _, _, score, _, saved⟩ := branch
    cases saved
    rfl
  · simp only [answerFirst] at branch
    split at branch
    · cases branch
      rfl
    · obtain ⟨score, _, created⟩ := bind_ok.mp branch
      cases created
      rfl

theorem submitExamAnswer_write {snapshotId : Pk}
    (returned : submitExamAnswer db snapshotId response now = .ok next) :
    Write now db next := by
  simp only [submitExamAnswer, bind_ok, ensure_ok, required_ok] at returned
  obtain ⟨snapshot, found, _, active, startedAt, started, branch⟩ := returned
  obtain ⟨member, same⟩ := Db.snapshot?_some found
  subst same
  split at branch
  · exact answerAgain_write active member started branch
  · rename_i fresh
    exact answerFirst_write active member started (by simpa using fresh)
      branch

theorem openLoop_writes
    {rounds : Nat} (active : db.attempt.status = .inProgress)
    (returned : openLoop rounds db now = .ok (next, opened)) :
    Writes now db next := by
  induction rounds generalizing db with
  | zero => cases returned
  | succ rounds inductionHypothesis =>
      simp only [openLoop] at returned
      split at returned
      · cases returned
        exact .refl
      · rename_i snapshot current
        split at returned
        · rename_i unstarted
          cases returned
          exact .single (.started snapshot active current unstarted)
        · split at returned
          · cases returned
            exact .refl
          · obtain ⟨answered, submitted, rest⟩ := bind_ok.mp returned
            have still := (submitExamAnswer_attempt submitted).symm ▸ active
            exact .head (submitExamAnswer_write submitted)
              (inductionHypothesis still rest)

theorem openCurrentQuestion_writes
    (returned : openCurrentQuestion db now = .ok (next, opened)) :
    Writes now db next := by
  simp only [openCurrentQuestion] at returned
  split at returned
  · rename_i active
    exact openLoop_writes active returned
  · cases returned
    exact .refl

end QuestionFlow

/-- A completion is a sequence of writes at one time. -/
theorem Results.completeExamAttempt_writes {result : AssessmentResult × Bool}
    (returned : completeExamAttempt db now = .ok (next, result)) :
    Writes now db next := by
  simp only [completeExamAttempt] at returned
  split at returned
  · cases returned
  · split at returned
    · cases returned
      exact .refl
    · cases returned
  · rename_i active
    simp only [complete, bind_ok, ensure_ok] at returned
    obtain ⟨_, _, _, all, written⟩ := returned
    cases written
    exact .single (.completed active all)

end TicketSandbox.Assessment
