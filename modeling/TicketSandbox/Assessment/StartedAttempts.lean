import TicketSandbox.Assessment.SelectedQuestions
import TicketSandbox.Library.Runs

namespace TicketSandbox.Assessment.StartedAttempts

/-!
# Starting attempts

`services/attempts.py`: an attempt at an assignment is started under the lock
of the assignment, with a snapshot of every selected question.  Between the
starts attempts are completed or invalidated, and the limit of the attempts
and everything that is read beside them may change.
-/

open Sandbox (Pk Text Timestamp)
open QuestionSelection
  (Bank ExamBlueprint Random SupportLevel selectQuestionsForBlueprint)
open QuestionSnapshot (Shuffle buildQuestionSnapshotData)
open Raises

/-! ## Rows -/

/-- `ExamQuestionSnapshot`, with the question that it was built from. -/
structure StartedSnapshot where
  sourceQuestionId : Pk
  snapshot : ExamQuestionSnapshot

/-- `ExamAttempt`, with its snapshots. -/
structure StartedAttempt where
  attemptNumber : Nat
  status : ExamAttemptStatus
  selectionSeed : Text
  campaignName : String
  blueprintName : String
  level : SupportLevel
  passPercentage : Nat
  allowBackNavigation : Bool
  shuffleQuestions : Bool
  shuffleAnswerOptions : Bool
  snapshots : List StartedSnapshot

/-- `AssessmentCampaign`, with its blueprint. -/
structure Campaign where
  name : String
  blueprint : ExamBlueprint
  isActive : Bool
  opensAt : Option Timestamp
  closesAt : Option Timestamp

/-- `SupportProfile`. -/
structure Employee where
  level : SupportLevel
  isActive : Bool

/-- `ExamAssignment`, with its attempts in the order of their creation. -/
structure Assignment where
  attemptLimit : Nat
  isActive : Bool
  campaign : Campaign
  employee : Employee
  attempts : List StartedAttempt

/-- What a start reads beside the assignment: the bank of questions, the
generators, how texts are folded, and the next key of a snapshot. -/
structure Server (σ : Type) where
  bank : Bank
  rng : Random σ
  shuffle : Text → Pk → Shuffle
  casefold : Text → Text
  serial : Pk

/-- What a start raises. -/
inductive Failure where
  | validation (message : String)
  | selection (failure : QuestionSelection.Failure)
  | snapshot (failure : Assessment.Failure)
  | integrity

/-! ## Starting -/

variable (assignment : Assignment)

/-- `_validate_assignment_for_start`. -/
def validateAssignmentForStart (now : Timestamp) : Except Failure Unit := do
  let campaign := assignment.campaign
  let blueprint := campaign.blueprint
  ensure (assignment.isActive = true)
    (.validation "Назначение теста неактивно.")
  ensure (assignment.employee.isActive = true)
    (.validation "Профиль сотрудника неактивен.")
  ensure (assignment.employee.level = blueprint.level)
    (.validation "Уровень сотрудника не совпадает с уровнем теста.")
  ensure (campaign.isActive = true)
    (.validation "Кампания тестирования неактивна.")
  ensure (blueprint.isActive = true) (.validation "Шаблон теста неактивен.")
  ensure (∀ opensAt ∈ campaign.opensAt, opensAt ≤ now)
    (.validation "Тестирование ещё не началось.")
  ensure (∀ closesAt ∈ campaign.closesAt, now < closesAt)
    (.validation "Срок прохождения теста закончился.")

/-- The attempt in progress with the greatest number. -/
def existingAttempt? : Option StartedAttempt :=
  ((assignment.attempts.filter fun attempt =>
      decide (attempt.status = .inProgress)).insertionSort
    fun first second => second.attemptNumber ≤ first.attemptNumber).head?

/-- The greatest number of the attempts, zero without attempts. -/
def lastAttemptNumber : Nat :=
  (assignment.attempts.map StartedAttempt.attemptNumber).foldr max 0

/-- The snapshot of a question at a position. -/
def createSnapshot
    {σ : Type} (server : Server σ) (seed : Text) (shuffleAnswerOptions : Bool)
    (position : Nat) (question : QuestionSelection.Question) :
    Except Failure StartedSnapshot :=
  match buildQuestionSnapshotData server.casefold question.content
      (server.shuffle seed question.pk) shuffleAnswerOptions with
  | .error failure => .error (.snapshot failure)
  | .ok data =>
      pure
        { sourceQuestionId := question.pk
          snapshot := data.snapshot (server.serial + position) position }

/-- The snapshots of the questions, from a position on. -/
def createSnapshots
    {σ : Type} (server : Server σ) (seed : Text) (shuffleAnswerOptions : Bool) :
    Nat → List QuestionSelection.Question →
      Except Failure (List StartedSnapshot)
  | _, [] => pure []
  | position, question :: questions => do
      let snapshot ←
        createSnapshot server seed shuffleAnswerOptions position question
      let snapshots ←
        createSnapshots server seed shuffleAnswerOptions (position + 1)
          questions
      pure (snapshot :: snapshots)

/-- The selected questions. -/
def selectQuestions {σ : Type} (server : Server σ) (blueprint : ExamBlueprint)
    (seed : Text) : Except Failure (List QuestionSelection.Question) :=
  match selectQuestionsForBlueprint server.rng server.bank blueprint seed
      with
  | .error failure => .error (.selection failure)
  | .ok selected => pure selected

/-- The attempt that is created. -/
def newAttempt
    (seed : Text) (snapshots : List StartedSnapshot) : StartedAttempt :=
  let blueprint := assignment.campaign.blueprint
  { attemptNumber := lastAttemptNumber assignment + 1
    status := .inProgress
    selectionSeed := seed
    campaignName := assignment.campaign.name
    blueprintName := blueprint.name
    level := blueprint.level
    passPercentage := blueprint.passPercentage
    allowBackNavigation := blueprint.allowBackNavigation
    shuffleQuestions := blueprint.shuffleQuestions
    shuffleAnswerOptions := blueprint.shuffleAnswerOptions
    snapshots }

/-- `start_exam_attempt`, where no attempt is in progress. -/
def createAttempt
    {σ : Type} (server : Server σ) (assignment : Assignment) (seed : Text)
    (now : Timestamp) : Except Failure (Assignment × StartedAttempt) := do
  let blueprint := assignment.campaign.blueprint
  validateAssignmentForStart assignment now
  ensure (assignment.attempts.length < assignment.attemptLimit)
    (Failure.validation "Доступные попытки закончились.")
  let selected ← selectQuestions server blueprint seed
  ensure (lastAttemptNumber assignment + 1 ∉
      assignment.attempts.map StartedAttempt.attemptNumber)
    Failure.integrity
  let snapshots ←
    createSnapshots server seed blueprint.shuffleAnswerOptions 1 selected
  let attempt := newAttempt assignment seed snapshots
  pure
    ({ assignment with attempts := assignment.attempts ++ [attempt] }, attempt)

/-- `start_exam_attempt`, with the seed that was given or drawn. -/
def startExamAttempt {σ : Type} (server : Server σ) (assignment : Assignment)
    (seed : Text) (now : Timestamp) :
    Except Failure (Assignment × StartedAttempt × Bool) :=
  match existingAttempt? assignment with
  | some attempt => pure (assignment, attempt, false)
  | none =>
      (createAttempt server assignment seed now).map fun created =>
        (created.1, created.2, true)

/-! ## Interleaved starts -/

/-- The assignment with what a start reads beside it. -/
structure System (σ : Type) where
  server : Server σ
  assignment : Assignment

/-- What happens next. -/
inductive Action (σ : Type) where
  | start (seed : Text) (now : Timestamp)
  | complete (attemptNumber : Nat)
  | invalidate (attemptNumber : Nat)
  | limit (attemptLimit : Nat)
  | changed (server : Server σ) (isActive : Bool) (campaign : Campaign)
      (employee : Employee)

/-- The assignment after a change of the status of an attempt. -/
def Assignment.withStatus
    (attemptNumber : Nat) (status : ExamAttemptStatus) : Assignment :=
  { assignment with
    attempts := Rows.modify StartedAttempt.attemptNumber attemptNumber
        (fun attempt => { attempt with status }) assignment.attempts }

/-- The attempt with the number is in progress. -/
def Assignment.isInProgress (attemptNumber : Nat) : Bool :=
  assignment.attempts.any fun attempt =>
    decide
      (attempt.attemptNumber = attemptNumber ∧ attempt.status = .inProgress)

/-- One step.  A start that raises leaves everything; only an attempt in
progress is completed. -/
def step? {σ : Type} (sys : System σ) : Action σ → Option (System σ)
  | .start seed now =>
      match startExamAttempt sys.server sys.assignment seed now with
      | .error _ => some sys
      | .ok (assignment, _, _) => some { sys with assignment }
  | .complete attemptNumber =>
      if sys.assignment.isInProgress attemptNumber = true then
        some
          { sys with
            assignment := sys.assignment.withStatus attemptNumber .completed }
      else
        none
  | .invalidate attemptNumber =>
      some
        { sys with
          assignment := sys.assignment.withStatus attemptNumber .invalidated }
  | .limit attemptLimit =>
      some { sys with assignment := { sys.assignment with attemptLimit } }
  | .changed server isActive campaign employee =>
      some
        { server
          assignment := { sys.assignment with isActive, campaign, employee } }

end TicketSandbox.Assessment.StartedAttempts
