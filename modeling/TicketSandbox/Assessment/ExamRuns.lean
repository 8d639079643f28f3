import TicketSandbox.Assessment.Results
import TicketSandbox.Library.Runs

namespace TicketSandbox.Assessment

/-!
# Runs of an exam attempt

Questions are opened in the order of their positions and one at a time, an
answer whose time ran out stays as it is, and so does everything once the
attempt is completed.
-/

open Runs
open Sandbox (Pk Timestamp)
open QuestionFlow Results

/-- A call of one of the services at a time. -/
inductive ExamCall where
  | openCurrentQuestion (now : Timestamp)
  | submitExamAnswer (snapshotId : Pk) (response : Json) (now : Timestamp)
  | completeExamAttempt (now : Timestamp)

namespace ExamCall

/-- The time of the call. -/
def now : ExamCall → Timestamp
  | .openCurrentQuestion now => now
  | .submitExamAnswer _ _ now => now
  | .completeExamAttempt now => now

/-- The tables after the call, unless it raises. -/
def result (db : Db) : ExamCall → Except Failure Db
  | .openCurrentQuestion now =>
      (QuestionFlow.openCurrentQuestion db now).map Prod.fst
  | .submitExamAnswer snapshotId response now =>
      QuestionFlow.submitExamAnswer db snapshotId response now
  | .completeExamAttempt now =>
      (Results.completeExamAttempt db now).map Prod.fst

end ExamCall

/-- The tables of an attempt and the time of the last call. -/
structure Exam where
  db : Db
  clock : Timestamp

namespace Exam

/-- One transaction, which a raise rolls back; times never decrease. -/
def step? (exam : Exam) (call : ExamCall) : Option Exam :=
  if exam.clock ≤ call.now then
    some
      { db :=
          match call.result exam.db with
          | .ok next => next
          | .error _ => exam.db
        clock := call.now }
  else
    none

end Exam

/-- An attempt as its creation leaves it. -/
structure IsFresh (db : Db) : Prop where
  status : db.attempt.status = .inProgress
  pks : (db.snapshots.map ExamQuestionSnapshot.pk).Nodup
  positions : (db.snapshots.map ExamQuestionSnapshot.position).Pairwise (· < ·)
  unstarted : ∀ snapshot ∈ db.snapshots, snapshot.startedAt = none
  answers : db.answers = []
  results : db.results = []

/--
The invariant of an attempt.  A question is only started when all questions
before it are answered.
-/
structure Orderly (db : Db) (clock : Timestamp) : Prop where
  pks : (db.snapshots.map ExamQuestionSnapshot.pk).Nodup
  positions : (db.snapshots.map ExamQuestionSnapshot.position).Pairwise (· < ·)
  answerIds : (db.answers.map ExamAnswer.snapshotId).Nodup
  owned : ∀ answer ∈ db.answers, ∃ snapshot ∈ db.snapshots,
      snapshot.pk = answer.snapshotId
  started : ∀ snapshot ∈ db.snapshots,
      db.isAnswered snapshot.pk = true → snapshot.startedAt ≠ none
  before : ∀ early ∈ db.snapshots, ∀ late ∈ db.snapshots,
      early.position < late.position →
      late.startedAt ≠ none →
      db.isAnswered early.pk = true
  timedOut : ∀ answer ∈ db.answers, answer.timedOut = true →
      answer.scorePercentage = 0 ∧
        ∀ snapshot ∈ db.snapshots, snapshot.pk = answer.snapshotId →
          ∃ startedAt, snapshot.startedAt = some startedAt ∧
              deadline snapshot startedAt ≤ clock
  unfinished : db.attempt.status = .inProgress → db.results = []
  finished : db.attempt.status = .completed → db.results = [resultOf db] ∧
        ∀ snapshot ∈ db.snapshots, db.isAnswered snapshot.pk = true

/-- An exam that was just started is orderly. -/
theorem IsFresh.orderly
    {db : Db} (fresh : IsFresh db) (clock : Timestamp) : Orderly db clock where
  pks := fresh.pks
  positions := fresh.positions
  answerIds := by simp [fresh.answers]
  owned := by simp [fresh.answers]
  started := by simp [Db.isAnswered_iff, fresh.answers]
  before := by
    intro early _ late member _ isStarted
    exact (isStarted (fresh.unstarted late member)).elim
  timedOut := by simp [fresh.answers]
  unfinished := fun _ => fresh.results
  finished := by simp [fresh.status]

variable {next : Db} {answer : ExamAnswer}

namespace Orderly

variable {db : Db}

theorem later {clock now : Timestamp} (orderly : Orderly db clock)
    (passed : clock ≤ now) :
    Orderly db now :=
  { orderly with
    timedOut := by
      intro answer member isLate
      obtain ⟨score, ended⟩ := orderly.timedOut answer member isLate
      refine ⟨score, fun snapshot snapshotMember same => ?_⟩
      obtain ⟨startedAt, isStarted, isOver⟩ :=
        ended snapshot snapshotMember same
      exact ⟨startedAt, isStarted, Int.le_trans isOver passed⟩ }

theorem answered_before_current
    {clock : Timestamp} {current early : ExamQuestionSnapshot}
    (orderly : Orderly db clock) (found : currentQuestion? db = some current)
    (member : early ∈ db.snapshots)
    (isBefore : early.position < current.position) :
    db.isAnswered early.pk = true := by
  obtain ⟨_, answered, unopened, split, skipped⟩ :=
    List.find?_eq_some_iff_append.mp found
  have increasing := orderly.positions
  rw [split] at member increasing
  rcases List.mem_append.mp member with isSkipped | isLater
  · simpa using skipped early isSkipped
  · rcases List.mem_cons.mp isLater with same | afterwards
    · rw [same] at isBefore
      exact absurd isBefore (Nat.lt_irrefl _)
    · rw [List.map_append, List.map_cons, List.pairwise_append,
        List.pairwise_cons] at increasing
      have isAfter := increasing.2.1.1 _ (List.mem_map_of_mem afterwards)
      exact absurd (Nat.lt_trans isBefore isAfter) (Nat.lt_irrefl _)

variable {snapshot : ExamQuestionSnapshot}

/-- Opening a question keeps the exam orderly. -/
theorem openSnapshot {now : Timestamp}
    (orderly : Orderly db now) (active : db.attempt.status = .inProgress)
    (current : currentQuestion? db = some snapshot)
    (unstarted : snapshot.startedAt = none) :
    Orderly (openSnapshot db snapshot.pk now) now := by
  have member : snapshot ∈ db.snapshots := List.mem_of_find?_eq_some current
  have version {row : ExamQuestionSnapshot}
      (found : row ∈ (QuestionFlow.openSnapshot db snapshot.pk now).snapshots) :
      (row = { snapshot with startedAt := some now }) ∨
        (row ∈ db.snapshots ∧ row.pk ≠ snapshot.pk) := by
    obtain ⟨old, oldMember, ⟨same, shape⟩ | ⟨different, shape⟩⟩ :=
      Rows.mem_modify.mp found
    · rw [Rows.eq_of_key orderly.pks oldMember member same] at shape
      exact .inl shape
    · subst shape
      exact .inr ⟨oldMember, different⟩
  have samePks : (QuestionFlow.openSnapshot db snapshot.pk now).snapshots.map
          ExamQuestionSnapshot.pk =
        db.snapshots.map ExamQuestionSnapshot.pk :=
    Rows.map_modify fun _ _ _ => rfl
  have samePositions :
      (QuestionFlow.openSnapshot db snapshot.pk now).snapshots.map
          ExamQuestionSnapshot.position =
        db.snapshots.map ExamQuestionSnapshot.position :=
    Rows.map_modify fun _ _ _ => rfl
  constructor
  · rw [samePks]
    exact orderly.pks
  · rw [samePositions]
    exact orderly.positions
  · exact orderly.answerIds
  · intro answer answerMember
    obtain ⟨row, rowMember, same⟩ := orderly.owned answer answerMember
    have kept : row.pk ∈ db.snapshots.map ExamQuestionSnapshot.pk :=
      List.mem_map_of_mem rowMember
    rw [← samePks] at kept
    obtain ⟨opened, openedMember, samePk⟩ := List.mem_map.mp kept
    exact ⟨opened, openedMember, samePk.trans same⟩
  · intro row rowMember isAnswered
    rcases version rowMember with opened | ⟨old, _⟩
    · rw [opened]
      exact Option.some_ne_none _
    · exact orderly.started row old isAnswered
  · intro early earlyMember late lateMember isBefore isStarted
    have earlyOld : ∃ old ∈ db.snapshots,
          old.pk = early.pk ∧ old.position = early.position := by
      rcases version earlyMember with opened | ⟨old, _⟩
      · exact ⟨snapshot, member, by simp [opened]⟩
      · exact ⟨early, old, rfl, rfl⟩
    obtain ⟨old, oldMember, samePk, samePosition⟩ := earlyOld
    rw [← samePosition] at isBefore
    rw [← samePk]
    rcases version lateMember with opened | ⟨lateOld, _⟩
    · rw [opened] at isBefore
      exact orderly.answered_before_current current oldMember isBefore
    · exact orderly.before old oldMember late lateOld isBefore isStarted
  · intro answer answerMember isLate
    obtain ⟨score, ended⟩ := orderly.timedOut answer answerMember isLate
    refine ⟨score, fun row rowMember same => ?_⟩
    rcases version rowMember with opened | ⟨old, _⟩
    · rw [opened] at same
      obtain ⟨startedAt, isStarted, _⟩ := ended snapshot member same
      rw [unstarted] at isStarted
      cases isStarted
    · exact ended row old same
  · exact orderly.unfinished
  · intro isCompleted
    have contradiction := active.symm.trans isCompleted
    cases contradiction

theorem createAnswer {now startedAt : Timestamp} (orderly : Orderly db now)
    (active : db.attempt.status = .inProgress)
    (member : snapshot ∈ db.snapshots)
    (isStarted : snapshot.startedAt = some startedAt)
    (fresh : db.isAnswered snapshot.pk = false)
    (about : answer.snapshotId = snapshot.pk) (late : answer.timedOut = true →
      answer.scorePercentage = 0 ∧ deadline snapshot startedAt ≤ now) :
    Orderly (createAnswer db answer) now where
  pks := orderly.pks
  positions := orderly.positions
  answerIds := by
    refine Rows.nodup_append_new orderly.answerIds ?_
    intro row rowMember same
    rw [about] at same
    have already : db.isAnswered snapshot.pk = true :=
      Db.isAnswered_iff.mpr (List.mem_map.mpr ⟨row, rowMember, same⟩)
    rw [fresh] at already
    cases already
  owned := by
    intro row rowMember
    rcases List.mem_append.mp rowMember with old | new
    · exact orderly.owned row old
    · rw [List.mem_singleton.mp new]
      exact ⟨snapshot, member, about.symm⟩
  started := by
    intro row rowMember isAnswered
    rcases isAnswered_createAnswer.mp isAnswered with already | named
    · exact orderly.started row rowMember already
    · rw [Rows.eq_of_key orderly.pks rowMember member
        (named.symm.trans about), isStarted]
      exact Option.some_ne_none _
  before := by
    intro early earlyMember later laterMember isBefore laterStarted
    exact isAnswered_createAnswer.mpr (.inl
        (orderly.before early earlyMember later laterMember isBefore
          laterStarted))
  timedOut := by
    intro row rowMember isLate
    rcases List.mem_append.mp rowMember with old | new
    · exact orderly.timedOut row old isLate
    · rw [List.mem_singleton.mp new] at isLate ⊢
      obtain ⟨score, isOver⟩ := late isLate
      refine ⟨score, fun other otherMember same => ?_⟩
      rw [Rows.eq_of_key orderly.pks otherMember member (same.trans about)]
      exact ⟨startedAt, isStarted, isOver⟩
  unfinished := orderly.unfinished
  finished := by
    intro isCompleted
    have contradiction := active.symm.trans isCompleted
    cases contradiction

theorem saveAnswer {now : Timestamp} (orderly : Orderly db now)
    (active : db.attempt.status = .inProgress)
    (graded : answer.timedOut = false) :
    Orderly (saveAnswer db answer) now where
  pks := orderly.pks
  positions := orderly.positions
  answerIds := by
    rw [answerIds_saveAnswer]
    exact orderly.answerIds
  owned := by
    intro row rowMember
    obtain ⟨old, oldMember, ⟨same, shape⟩ | ⟨_, shape⟩⟩ :=
      Rows.mem_modify.mp rowMember
    · rw [shape, ← same]
      exact orderly.owned old oldMember
    · rw [shape]
      exact orderly.owned old oldMember
  started := by
    intro row rowMember isAnswered
    exact orderly.started row rowMember (isAnswered_saveAnswer.mp isAnswered)
  before := by
    intro early earlyMember late lateMember isBefore isStarted
    exact isAnswered_saveAnswer.mpr
      (orderly.before early earlyMember late lateMember isBefore isStarted)
  timedOut := by
    intro row rowMember isLate
    obtain ⟨old, oldMember, ⟨_, shape⟩ | ⟨_, shape⟩⟩ :=
      Rows.mem_modify.mp rowMember
    · rw [shape, graded] at isLate
      cases isLate
    · rw [shape] at isLate ⊢
      exact orderly.timedOut old oldMember isLate
  unfinished := orderly.unfinished
  finished := by
    intro isCompleted
    have contradiction := active.symm.trans isCompleted
    cases contradiction

theorem completed {now : Timestamp} (orderly : Orderly db now)
    (active : db.attempt.status = .inProgress)
    (all : (answeredQuestions db).length = db.snapshots.length) :
    Orderly (completed db now) now :=
  { orderly with
    unfinished := nofun
    finished := by
      intro _
      constructor
      · show db.results ++ [resultOf db] = [resultOf db]
        rw [orderly.unfinished active, List.nil_append]
      · intro snapshot member
        rw [answeredQuestions, List.length_filterMap_eq_countP,
          List.countP_eq_length] at all
        have isAnswered := all snapshot member
        rw [Option.isSome_map] at isAnswered
        exact isAnswered }

theorem write
    {now : Timestamp} (orderly : Orderly db now) (written : Write now db next) :
    Orderly next now := by
  cases written with
  | started snapshot active current unstarted =>
      exact orderly.openSnapshot active current unstarted
  | answered snapshot startedAt answer active member started fresh about late =>
      exact orderly.createAnswer active member started fresh about late
  | answeredAgain snapshot startedAt answer active member started about
      inTime graded =>
      exact orderly.saveAnswer active graded
  | completed active all => exact orderly.completed active all

end Orderly

/-- What later calls leave as it is. -/
structure Kept (first last : Db) : Prop where
  timedOut :
    ∀ answer ∈ first.answers, answer.timedOut = true → answer ∈ last.answers
  completed : first.attempt.status = .completed →
      last.attempt = first.attempt ∧ last.answers = first.answers ∧
        last.results = first.results

namespace Kept

theorem refl (db : Db) : Kept db db where
  timedOut := fun _ member _ => member
  completed := fun _ => ⟨rfl, rfl, rfl⟩

variable {first last : Db}

theorem trans
    {middle : Db} (early : Kept first middle) (late : Kept middle last) :
    Kept first last where
  timedOut := fun answer member isLate =>
    late.timedOut answer (early.timedOut answer member isLate) isLate
  completed := by
    intro isCompleted
    obtain ⟨attempt, answers, results⟩ := early.completed isCompleted
    obtain ⟨lateAttempt, lateAnswers, lateResults⟩ :=
      late.completed (attempt ▸ isCompleted)
    exact ⟨lateAttempt.trans attempt, lateAnswers.trans answers,
      lateResults.trans results⟩

theorem ofActive (active : first.attempt.status = .inProgress) (timedOut :
      ∀ answer ∈ first.answers, answer.timedOut = true →
        answer ∈ last.answers) :
    Kept first last where
  timedOut := timedOut
  completed := by
    intro isCompleted
    have contradiction := active.symm.trans isCompleted
    cases contradiction

end Kept

theorem Orderly.kept_saveAnswer
    {db : Db} {now startedAt : Timestamp} {snapshot : ExamQuestionSnapshot}
    (orderly : Orderly db now) (member : snapshot ∈ db.snapshots)
    (started : snapshot.startedAt = some startedAt)
    (about : answer.snapshotId = snapshot.pk)
    (inTime : now < deadline snapshot startedAt) :
    ∀ row ∈ db.answers, row.timedOut = true →
      row ∈ (QuestionFlow.saveAnswer db answer).answers := by
  intro row rowMember isLate
  refine Rows.mem_modify.mpr ⟨row, rowMember, .inr ⟨?_, rfl⟩⟩
  intro same
  obtain ⟨_, ended⟩ := orderly.timedOut row rowMember isLate
  obtain ⟨earlier, isStarted, isOver⟩ :=
    ended snapshot member (about.symm.trans same.symm)
  rw [started] at isStarted
  cases isStarted
  exact absurd (Int.lt_of_lt_of_le inTime isOver) (Int.lt_irrefl _)

theorem Orderly.kept {db : Db} {now : Timestamp} (orderly : Orderly db now)
    (written : Write now db next) :
    Kept db next := by
  cases written with
  | started snapshot active current unstarted =>
      exact .ofActive active fun _ member _ => member
  | answered snapshot startedAt answer active member started fresh about late =>
      exact .ofActive active fun _ rowMember _ =>
        List.mem_append_left _ rowMember
  | answeredAgain snapshot startedAt answer active member started about
      inTime graded =>
      exact .ofActive active
        (orderly.kept_saveAnswer member started about inTime)
  | completed active all => exact .ofActive active fun _ member _ => member

theorem Orderly.writes {db : Db} {now : Timestamp} (orderly : Orderly db now)
    (written : Writes now db next) :
    Orderly next now ∧ Kept db next := by
  induction written with
  | refl => exact ⟨orderly, .refl db⟩
  | tail _ write inductionHypothesis =>
      obtain ⟨stillOrderly, kept⟩ := inductionHypothesis
      exact ⟨stillOrderly.write write, kept.trans (stillOrderly.kept write)⟩

namespace ExamCall

theorem result_writes
    {db : Db} (call : ExamCall) (returned : call.result db = .ok next) :
    Writes call.now db next := by
  cases call with
  | openCurrentQuestion now =>
      simp only [result] at returned
      cases opened : QuestionFlow.openCurrentQuestion db now with
      | error failure =>
          rw [opened] at returned
          cases returned
      | ok pair =>
          rw [opened] at returned
          cases returned
          exact openCurrentQuestion_writes opened
  | submitExamAnswer snapshotId response now =>
      exact .single (submitExamAnswer_write returned)
  | completeExamAttempt now =>
      simp only [result] at returned
      cases completes : Results.completeExamAttempt db now with
      | error failure =>
          rw [completes] at returned
          cases returned
      | ok pair =>
          rw [completes] at returned
          cases returned
          exact completeExamAttempt_writes completes

end ExamCall

namespace Exam

theorem step?_orderly
    {exam next : Exam} {call : ExamCall} (orderly : Orderly exam.db exam.clock)
    (stepped : exam.step? call = some next) :
    Orderly next.db next.clock ∧ Kept exam.db next.db := by
  simp only [step?] at stepped
  split at stepped
  · rename_i passed
    cases stepped
    cases returned : call.result exam.db with
    | error failure => exact ⟨orderly.later passed, .refl _⟩
    | ok next =>
        exact (orderly.later passed).writes (call.result_writes returned)
  · cases stepped

theorem run_orderly {first last : Exam} {calls : List ExamCall}
    (orderly : Orderly first.db first.clock)
    (run : Run step? anything first calls last) :
    Orderly last.db last.clock ∧ Kept first.db last.db := by
  refine run.invariant
    (fun exam => Orderly exam.db exam.clock ∧ Kept first.db exam.db)
    ?_ ⟨orderly, .refl _⟩
  rintro exam call next _ stepped ⟨stillOrderly, kept⟩
  obtain ⟨nextOrderly, keptNext⟩ := step?_orderly stillOrderly stepped
  exact ⟨nextOrderly, kept.trans keptNext⟩

end Exam

/-- The numbers of a result are those of the stored answers. -/
structure Summarizes (result : AssessmentResult) (db : Db) : Prop where
  computed : result = resultOf db
  total : result.totalQuestions = db.snapshots.length
  allAnswered : result.totalQuestions = db.answers.length
  fullyCorrect : result.fullyCorrectQuestions =
      db.answers.countP fun answer => answer.isCorrect
  score : result.scorePercentage =
      averageScore (db.answers.map ExamAnswer.scorePercentage)

/-- What holds of an attempt at any time. -/
structure Consistent (db : Db) : Prop where
  answeredStarted : ∀ snapshot ∈ db.snapshots,
      db.isAnswered snapshot.pk = true → snapshot.startedAt ≠ none
  oneOpen :
    ∀ first ∈ db.snapshots, ∀ second ∈ db.snapshots, first.startedAt ≠ none →
      db.isAnswered first.pk = false →
      second.startedAt ≠ none →
      db.isAnswered second.pk = false →
      first = second
  answeredInitial : ∀ early ∈ db.snapshots, ∀ late ∈ db.snapshots,
      early.position < late.position →
      db.isAnswered late.pk = true →
      db.isAnswered early.pk = true
  startedInitial : ∀ early ∈ db.snapshots, ∀ late ∈ db.snapshots,
      early.position < late.position →
      late.startedAt ≠ none →
      early.startedAt ≠ none
  timedOutScore :
    ∀ answer ∈ db.answers, answer.timedOut = true → answer.scorePercentage = 0
  completedResult : db.attempt.status = .completed →
      ∃ result, db.results = [result] ∧ Summarizes result db

namespace Orderly

variable {clock : Timestamp}

/-- In an orderly exam a snapshot has one answer. -/
theorem answer?_mem
    {db : Db} (orderly : Orderly db clock) (member : answer ∈ db.answers) :
    db.answer? answer.snapshotId = some answer :=
  Rows.find?_of_key orderly.answerIds member (decide_eq_true rfl)
    fun _ same => of_decide_eq_true same

theorem answeredQuestions_perm {db : Db} (orderly : Orderly db clock) :
    ((answeredQuestions db).map AnsweredQuestion.answer).Perm
      db.answers := by
  have shape : (answeredQuestions db).map AnsweredQuestion.answer =
        db.snapshots.filterMap fun snapshot => db.answer? snapshot.pk := by
    simp [answeredQuestions, List.map_filterMap, Function.comp_def]
  rw [shape]
  have once : (db.snapshots.filterMap fun snapshot =>
        db.answer? snapshot.pk).Nodup := by
    refine (List.pairwise_map.mp orderly.pks).filterMap _ ?_
    intro first second different answer found other otherFound same
    have firstNamed : answer.snapshotId = first.pk := by
      simpa using List.find?_some found
    have secondNamed : other.snapshotId = second.pk := by
      simpa using List.find?_some otherFound
    exact different (firstNamed.symm.trans (same ▸ secondNamed))
  refine (List.perm_ext_iff_of_nodup once
    (List.Nodup.of_map _ orderly.answerIds)).mpr fun answer => ?_
  rw [List.mem_filterMap]
  constructor
  · rintro ⟨snapshot, _, found⟩
    exact List.mem_of_find?_eq_some found
  · intro member
    obtain ⟨snapshot, snapshotMember, same⟩ := orderly.owned answer member
    exact ⟨snapshot, snapshotMember, same ▸ orderly.answer?_mem member⟩

theorem summarizes {db : Db} (orderly : Orderly db clock) (allAnswered :
      ∀ snapshot ∈ db.snapshots, db.isAnswered snapshot.pk = true) :
    Summarizes (resultOf db) db := by
  have perm := orderly.answeredQuestions_perm
  have scoresPerm : (scores (answeredQuestions db)).Perm
        (db.answers.map ExamAnswer.scorePercentage) := by
    have mapped := perm.map ExamAnswer.scorePercentage
    rwa [List.map_map] at mapped
  constructor
  · rfl
  · rfl
  · rw [← perm.length_eq, List.length_map, answeredQuestions,
      List.length_filterMap_eq_countP, eq_comm]
    refine List.countP_eq_length.mpr fun snapshot member => ?_
    rw [Option.isSome_map]
    exact allAnswered snapshot member
  · rw [← perm.countP_eq, List.countP_map]
    rfl
  · simp only [resultOf, averageScore, scoresPerm.sum_nat,
      scoresPerm.length_eq, List.isEmpty_iff_length_eq_zero]

theorem consistent {db : Db} (orderly : Orderly db clock) : Consistent db where
  answeredStarted := orderly.started
  oneOpen := by
    intro first firstMember second secondMember firstStarted firstOpen
      secondStarted secondOpen
    rcases Nat.lt_trichotomy first.position second.position with
      isBefore | same | isAfter
    · have answered :=
        orderly.before first firstMember second secondMember isBefore
          secondStarted
      rw [firstOpen] at answered
      cases answered
    · exact Rows.eq_of_key
        (orderly.positions.imp fun smaller => Nat.ne_of_lt smaller)
        firstMember secondMember same
    · have answered :=
        orderly.before second secondMember first firstMember isAfter
          firstStarted
      rw [secondOpen] at answered
      cases answered
  answeredInitial := by
    intro early earlyMember late lateMember isBefore isAnswered
    exact orderly.before early earlyMember late lateMember isBefore
      (orderly.started late lateMember isAnswered)
  startedInitial := by
    intro early earlyMember late lateMember isBefore isStarted
    exact orderly.started early earlyMember
      (orderly.before early earlyMember late lateMember isBefore isStarted)
  timedOutScore := fun answer member isLate =>
    (orderly.timedOut answer member isLate).1
  completedResult := by
    intro isCompleted
    obtain ⟨results, allAnswered⟩ := orderly.finished isCompleted
    exact ⟨_, results, orderly.summarizes allAnswered⟩

end Orderly

/--
In every reachable state the attempt is consistent, and from then on no call
changes an answer whose time ran out, nor anything once it is completed.
-/
theorem reachable_consistent
    {db : Db} {clock : Timestamp} {early late : List ExamCall}
    {first last : Exam} (fresh : IsFresh db) (reached :
      Run Exam.step? anything { db := db, clock := clock } early first)
    (run : Run Exam.step? anything first late last) :
    Consistent first.db ∧ (∀ answer ∈ first.db.answers, answer.timedOut = true →
        last.db.answer? answer.snapshotId = some answer) ∧
      (first.db.attempt.status = .completed →
        last.db.attempt = first.db.attempt ∧
          last.db.answers = first.db.answers ∧
          last.db.results = first.db.results) := by
  have orderly := (Exam.run_orderly (fresh.orderly clock) reached).1
  obtain ⟨lastOrderly, kept⟩ := Exam.run_orderly orderly run
  refine ⟨orderly.consistent, ?_, kept.completed⟩
  intro answer member isLate
  exact lastOrderly.answer?_mem (kept.timedOut answer member isLate)

/-- A question about a single choice. -/
def choice (pk : Pk) (position : Nat) : ExamQuestionSnapshot where
  pk := pk
  position := position
  topicName := "Сети"
  topicSlug := "networks"
  skillName := "DNS"
  skillSlug := "dns"
  questionType := .singleChoice
  timeLimitSeconds := 60
  startedAt := none
  visiblePayload := { options := ["a", "b"] }
  gradingPayload := { correctKeys := ["b"] }

/-- An attempt with two questions. -/
def twoQuestions : Exam where
  db :=
    { attempt :=
        { status := .inProgress
          passPercentage := 50
          allowBackNavigation := true
          completedAt := none }
      snapshots := [choice 7 1, choice 9 2]
      answers := []
      results := [] }
  clock := 0

/-- The choice of one option. -/
def chosen (key : String) : Json :=
  .object [("selected_keys", .list [.text key])]

/-- The first question times out, and the second is answered twice. -/
def timedOutAndAnsweredTwice : List ExamCall :=
  [.openCurrentQuestion 0, .openCurrentQuestion 60000000,
    .submitExamAnswer 9 (chosen "a") 70000000,
    .submitExamAnswer 9 (chosen "b") 80000000,
    .completeExamAttempt 90000000]

/-- Nothing changes the attempt after its completion. -/
def triedAgain : List ExamCall :=
  [.submitExamAnswer 7 (chosen "b") 100000000, .completeExamAttempt 110000000]

theorem reachable_consistent_triedAgain :
    ∃ first last : Exam, Run Exam.step? anything twoQuestions
          timedOutAndAnsweredTwice first ∧
        Run Exam.step? anything first triedAgain last ∧
        first.db.attempt.status = .completed ∧
        last.db.results = first.db.results := by
  have reached : Run Exam.step? anything twoQuestions timedOutAndAnsweredTwice
        (after Exam.step? twoQuestions timedOutAndAnsweredTwice) :=
    run_after (fun _ _ _ => trivial) (by decide)
  have run : Run Exam.step? anything
        (after Exam.step? twoQuestions timedOutAndAnsweredTwice)
        triedAgain _ :=
    run_after (fun _ _ _ => trivial) (by decide)
  have fresh : IsFresh twoQuestions.db :=
    ⟨rfl, by decide, by decide, by decide, rfl, rfl⟩
  have isCompleted : (after Exam.step? twoQuestions
        timedOutAndAnsweredTwice).db.attempt.status = .completed := by
    decide
  obtain ⟨_, _, frozen⟩ := reachable_consistent fresh reached run
  exact ⟨_, _, reached, run, isCompleted, (frozen isCompleted).2.2⟩

end TicketSandbox.Assessment
