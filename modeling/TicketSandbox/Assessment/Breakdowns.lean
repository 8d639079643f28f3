import Mathlib.Algebra.BigOperators.Group.List.Lemmas
import TicketSandbox.Assessment.Results

namespace TicketSandbox.Assessment.Results

/-!
# Exact breakdowns

The breakdown by skill is grouped by the slug of the skill alone, which is
unique within a topic only.  It is exact when no two topics of the attempt
share such a slug.
-/

open Raises
open Sandbox (Pk Timestamp)

/-- The questions of a topic and skill. -/
def ofPair (topicSlug skillSlug : String)
    (answers : List AnsweredQuestion) : List AnsweredQuestion :=
  answers.filter fun question =>
    decide (question.snapshot.topicSlug = topicSlug ∧
        question.snapshot.skillSlug = skillSlug)

/-- Every topic and skill of the attempt has an entry of its own, and the
counts sum up to the number of questions. -/
structure IsExact (db : Db) (result : AssessmentResult) : Prop where
  pairs : ∀ snapshot ∈ db.snapshots,
      ∃ entry, (snapshot.skillSlug, entry) ∈ result.skillBreakdown ∧
        entry.topicSlug = snapshot.topicSlug ∧
        entry.questionCount = (ofPair snapshot.topicSlug snapshot.skillSlug
            (answeredQuestions db)).length ∧
        entry.scorePercentage = averageScore (scores
              (ofPair snapshot.topicSlug snapshot.skillSlug
                (answeredQuestions db)))
  topics : (result.topicBreakdown.map fun entry => entry.2.questionCount).sum =
      result.totalQuestions
  skills : (result.skillBreakdown.map fun entry => entry.2.questionCount).sum =
      result.totalQuestions

/-- No two topics of the attempt share the slug of a skill. -/
def SkillsApart (db : Db) : Prop :=
  ∀ first ∈ db.snapshots, ∀ second ∈ db.snapshots,
    first.skillSlug = second.skillSlug → first.topicSlug = second.topicSlug

/-! ## Groups -/

theorem sum_underSlug
    (slug : ExamQuestionSnapshot → String) (answers : List AnsweredQuestion) :
    ((firstOccurrences (answers.map fun question => slug question.snapshot)).map
      fun name => (underSlug slug name answers).length).sum =
      answers.length := by
  have counts : ∀ name, (underSlug slug name answers).length =
          (answers.map fun question => slug question.snapshot).count
            name := by
    intro name
    unfold underSlug
    rw [← List.countP_eq_length_filter, List.count, List.countP_map]
    refine List.countP_congr fun question _ => ?_
    simp
  simp only [counts]
  unfold firstOccurrences
  rw [List.map_reverse, List.sum_reverse]
  have total := List.sum_map_count_dedup_eq_length
      (answers.map fun question => slug question.snapshot).reverse
  simpa using total

theorem mem_firstOccurrences {names : List String} {name : String} :
    name ∈ firstOccurrences names ↔ name ∈ names := by
  simp [firstOccurrences]

variable {answers : List AnsweredQuestion} {db : Db}
  {snapshot : ExamQuestionSnapshot}

theorem lastColumn_of_all {column : ExamQuestionSnapshot → String}
    {value : String} (notEmpty : answers ≠ [])
    (all : ∀ question ∈ answers, column question.snapshot = value) :
    lastColumn column answers = value := by
  unfold lastColumn
  rw [List.getLast?_eq_getLast_of_ne_nil notEmpty]
  exact all _ (List.getLast_mem notEmpty)

theorem snapshot_mem
    {question : AnsweredQuestion} (member : question ∈ answeredQuestions db) :
    question.snapshot ∈ db.snapshots := by
  obtain ⟨snapshot, inAttempt, found⟩ := List.mem_filterMap.mp member
  obtain ⟨answer, -, rfl⟩ := Option.map_eq_some_iff.mp found
  exact inAttempt

theorem exists_answered
    (all : (answeredQuestions db).length = db.snapshots.length)
    (member : snapshot ∈ db.snapshots) :
    ∃ question ∈ answeredQuestions db, question.snapshot = snapshot := by
  have isSome := List.filterMap_length_eq_length.mp all snapshot member
  obtain ⟨question, found⟩ := Option.isSome_iff_exists.mp isSome
  refine ⟨question, List.mem_filterMap.mpr ⟨snapshot, member, found⟩, ?_⟩
  obtain ⟨answer, -, rfl⟩ := Option.map_eq_some_iff.mp found
  rfl

/-! ## The breakdown by skill -/

theorem mem_skillBreakdown {name : String} {entry : SkillBreakdown} :
    (name, entry) ∈ skillBreakdown answers ↔
      name ∈ answers.map (fun question => question.snapshot.skillSlug) ∧ entry =
          { name := lastColumn ExamQuestionSnapshot.skillName
                (underSlug ExamQuestionSnapshot.skillSlug name answers)
            topicSlug := lastColumn ExamQuestionSnapshot.topicSlug
                (underSlug ExamQuestionSnapshot.skillSlug name answers)
            topicName := lastColumn ExamQuestionSnapshot.topicName
                (underSlug ExamQuestionSnapshot.skillSlug name answers)
            questionCount :=
              (underSlug ExamQuestionSnapshot.skillSlug name answers).length
            scorePercentage := averageScore (scores
                  (underSlug ExamQuestionSnapshot.skillSlug name
                    answers)) } := by
  unfold skillBreakdown
  rw [List.mem_map]
  constructor
  · rintro ⟨other, member, same⟩
    simp only [Prod.mk.injEq] at same
    obtain ⟨rfl, rfl⟩ := same
    exact ⟨mem_firstOccurrences.mp member, rfl⟩
  · rintro ⟨member, rfl⟩
    exact ⟨name, mem_firstOccurrences.mpr member, rfl⟩

theorem underSlug_eq_ofPair
    (apart : SkillsApart db) (member : snapshot ∈ db.snapshots) :
    underSlug ExamQuestionSnapshot.skillSlug snapshot.skillSlug
        (answeredQuestions db) =
      ofPair snapshot.topicSlug snapshot.skillSlug (answeredQuestions db) := by
  unfold underSlug ofPair
  refine List.filter_congr fun question answered => ?_
  have isApart := apart question.snapshot (snapshot_mem answered) snapshot
    member
  by_cases same : question.snapshot.skillSlug = snapshot.skillSlug
  · simp [same, isApart same]
  · simp [same]

theorem resultOf_isExact
    (all : (answeredQuestions db).length = db.snapshots.length)
    (apart : SkillsApart db) :
    IsExact db (resultOf db) := by
  refine ⟨fun snapshot member => ?_, ?_, ?_⟩
  · obtain ⟨question, answered, isSnapshot⟩ := exists_answered all member
    have own := underSlug_eq_ofPair apart member
    have inPair : question ∈ ofPair snapshot.topicSlug snapshot.skillSlug
            (answeredQuestions db) := by
      unfold ofPair
      rw [List.mem_filter, isSnapshot]
      exact ⟨answered, by simp⟩
    refine ⟨_, mem_skillBreakdown.mpr ⟨?_, rfl⟩, ?_, by rw [own], by rw [own]⟩
    · rw [← isSnapshot]
      exact List.mem_map_of_mem answered
    · rw [own]
      refine lastColumn_of_all (List.ne_nil_of_mem inPair) ?_
      intro other isOther
      have isPair := (List.mem_filter.mp isOther).2
      exact (of_decide_eq_true isPair).1
  · change
      ((topicBreakdown (answeredQuestions db)).map _).sum = db.snapshots.length
    rw [← all, topicBreakdown, List.map_map]
    exact sum_underSlug ExamQuestionSnapshot.topicSlug (answeredQuestions db)
  · change
      ((skillBreakdown (answeredQuestions db)).map _).sum = db.snapshots.length
    rw [← all, skillBreakdown, List.map_map]
    exact sum_underSlug ExamQuestionSnapshot.skillSlug (answeredQuestions db)

/-- An exact breakdown has a slug for every skill. -/
theorem skillsApart_of_isExact
    (isExact : IsExact db (resultOf db)) : SkillsApart db := by
  intro first isFirst second isSecond same
  obtain ⟨firstEntry, firstMember, firstTopic, -, -⟩ :=
    isExact.pairs first isFirst
  obtain ⟨secondEntry, secondMember, secondTopic, -, -⟩ :=
    isExact.pairs second isSecond
  rw [← same] at secondMember
  obtain ⟨-, isFirstEntry⟩ := mem_skillBreakdown.mp firstMember
  obtain ⟨-, isSecondEntry⟩ := mem_skillBreakdown.mp secondMember
  rw [← firstTopic, ← secondTopic, isFirstEntry, isSecondEntry]

theorem completeExamAttempt_new
    {next : Db} {now : Timestamp} {result : AssessmentResult}
    (completed : completeExamAttempt db now = .ok (next, result, true)) :
    (answeredQuestions db).length = db.snapshots.length ∧
      result = resultOf db ∧ next.results = db.results ++ [result] := by
  unfold completeExamAttempt at completed
  cases status : db.attempt.status with
  | invalidated => simp [status] at completed
  | completed =>
      simp only [status] at completed
      cases found : db.results.head? with
      | none => simp [found] at completed
      | some stored => simp [found] at completed
  | inProgress =>
      simp only [status] at completed
      unfold complete at completed
      obtain ⟨_, -, completed⟩ := bind_ok.mp completed
      obtain ⟨_, isAnswered, completed⟩ := bind_ok.mp completed
      have all := ensure_ok.mp isAnswered
      have isResult := pure_ok.mp completed
      simp only [Prod.mk.injEq] at isResult
      obtain ⟨rfl, rfl, -⟩ := isResult
      exact ⟨all, rfl, rfl⟩

/--
The breakdowns that a completion stores are exact precisely when no two topics
of the attempt share the slug of a skill.
-/
theorem completeExamAttempt_isExact
    {db next : Db} {now : Timestamp} {result : AssessmentResult}
    (completed : completeExamAttempt db now = .ok (next, result, true)) :
    (next.results = db.results ++ [result] ∧ IsExact db result) ↔
      SkillsApart db := by
  obtain ⟨all, rfl, stored⟩ := completeExamAttempt_new completed
  constructor
  · rintro ⟨-, isExact⟩
    exact skillsApart_of_isExact isExact
  · intro apart
    exact ⟨stored, resultOf_isExact all apart⟩

/-- A question of a topic, of a skill that every topic has. -/
def sampleSnapshot (pk : Pk) (topicSlug : String) : ExamQuestionSnapshot :=
  { pk
    position := pk
    topicName := topicSlug
    topicSlug
    skillName := "basics"
    skillSlug := "basics"
    questionType := .singleChoice
    timeLimitSeconds := 60
    startedAt := none
    visiblePayload := {}
    gradingPayload := {} }

/-- An attempt with a question of each topic, answered. -/
def sampleDb (topicSlugs : List String) : Db :=
  let snapshots := topicSlugs.mapIdx sampleSnapshot
  { attempt :=
      { status := .inProgress
        passPercentage := 50
        allowBackNavigation := false
        completedAt := none }
    snapshots
    answers := snapshots.map fun snapshot =>
        { snapshotId := snapshot.pk
          responsePayload := .null
          scorePercentage := 0
          isCorrect := false
          timedOut := true
          responseTimeSeconds := 0 }
    results := [] }

/-- The attempt after its completion. -/
def completedDb (topicSlugs : List String) : Db :=
  let db := sampleDb topicSlugs
  { db with
    attempt :=
      { db.attempt with status := .completed, completedAt := some 0 }
    results := db.results ++ [resultOf db] }

theorem completeExamAttempt_isExact_one_topic :
    ((completedDb ["dns", "dns"]).results = (sampleDb ["dns", "dns"]).results ++
            [resultOf (sampleDb ["dns", "dns"])] ∧
        IsExact (sampleDb ["dns", "dns"])
          (resultOf (sampleDb ["dns", "dns"]))) ↔
      SkillsApart (sampleDb ["dns", "dns"]) :=
  @completeExamAttempt_isExact (sampleDb ["dns", "dns"])
    (completedDb ["dns", "dns"]) 0 (resultOf (sampleDb ["dns", "dns"])) rfl

/-- Two topics with a skill of one slug share an entry. -/
theorem completeExamAttempt_collapses :
    completeExamAttempt (sampleDb ["dns", "mail"]) 0 = .ok
          (completedDb ["dns", "mail"],
            resultOf (sampleDb ["dns", "mail"]), true) ∧
      ¬ IsExact (sampleDb ["dns", "mail"])
        (resultOf (sampleDb ["dns", "mail"])) := by
  refine ⟨rfl, fun isExact => ?_⟩
  have apart := skillsApart_of_isExact isExact
  have same := apart (sampleSnapshot 0 "dns") (by simp [sampleDb])
      (sampleSnapshot 1 "mail") (by simp [sampleDb]) rfl
  exact absurd same (by decide)

end TicketSandbox.Assessment.Results
