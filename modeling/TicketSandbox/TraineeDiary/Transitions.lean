import TicketSandbox.Library.Attempts
import TicketSandbox.Library.Timelines
import TicketSandbox.TraineeDiary.Models

namespace TicketSandbox.TraineeDiary

/-!
# Changes of the stage

`move_to_stage` and `complete_probation`: one object in memory and the rows of
its card.  A transaction that fails is rolled back; the object is set back by
the code itself.
-/

open Attempts
open Sandbox (Pk Text strip)

/-- The rows of one card, and the catalog. -/
structure Diary where
  stages : List TraineeStage
  journey : TraineeJourney
  history : List StageHistory
  metrics : List WeeklyMetric
  transfer : Option StageSchemeTransfer
  historySequence : Pk

/-- The rows, and the card as an object in memory. -/
structure Session where
  diary : Diary
  journey : TraineeJourney

/-- Why a call is rejected.  A field check of Django has the code of its
message as its text. -/
inductive Rejection where
  | fields (errors : List (String × String))
  | message (text : String)
  | missing
  | source

/-- Code of the diary. -/
abbrev Op (α : Type) : Type :=
  Code Session Rejection α

/-- `transaction.atomic`. -/
def atomic {α : Type} (code : Op α) : Op α :=
  restoring (fun first next => { next with diary := first.diary }) code

/-- Assign to the fields of the object. -/
def assign (update : TraineeJourney → TraineeJourney) : Op PUnit :=
  change fun session => { session with journey := update session.journey }

/-- Write to the rows. -/
def write (update : Diary → Diary) : Op PUnit :=
  change fun session => { session with diary := update session.diary }

/-- The stage with the primary key. -/
def stageOf (id : Pk) : Op TraineeStage := do
  let session ← inspect
  required .missing (stage? session.diary.stages id)

/-! ## Validation -/

/-- `errors[field] = text`. -/
def putError (field text : String)
    (errors : List (String × String)) : List (String × String) :=
  errors.filter (fun error => decide (error.1 ≠ field)) ++ [(field, text)]

/-- `errors[field] = text` where the condition holds. -/
def putErrorIf (condition : Prop) [Decidable condition] (field text : String)
    (errors : List (String × String)) : List (String × String) :=
  if condition then putError field text errors else errors

variable (journey : TraineeJourney)

/-- Some of the fields of a completion are filled. -/
def TraineeJourney.HasCompletionData : Prop :=
  journey.completionStatus ≠ .empty ∨ journey.completedAt ≠ none ∨
    journey.completionComment ≠ [] ∨ journey.completedById ≠ none
  deriving Decidable

/-- The part of `clean` about the date of the completion. -/
def cleanCompletedAt
    (today : Day) (errors : List (String × String)) : List (String × String) :=
  match journey.completedAt with
  | none =>
      putError "completed_at" "Укажи дату завершения испытательного срока."
        errors
  | some completedAt =>
      if completedAt < journey.probationStartDate then
        putError "completed_at"
          "Дата завершения не может быть раньше даты начала ИС." errors
      else
        putErrorIf (today < completedAt) "completed_at"
          "Дата завершения не может быть в будущем." errors

/-- The part of `clean` about the result of the completion. -/
def cleanCompletionStatus
    (errors : List (String × String)) : List (String × String) :=
  if journey.completionStatus = .empty then
    putError "completion_status" "Укажи результат испытательного срока." errors
  else
    putErrorIf (¬ journey.completionStatus.IsKnown) "completion_status"
      "Указан неизвестный результат испытательного срока." errors

/-- `clean`: the errors of the object, whose scheme is stored too. -/
def clean
    (stage : TraineeStage) (stored : StageScheme) (journey : TraineeJourney)
    (today : Day) : List (String × String) :=
  let stageErrors :=
    putErrorIf (¬ StageApplies stage journey.stageScheme journey.entryType)
      "current_stage" "Этот этап не применим к выбранной схеме адаптации."
      (putErrorIf (stage.appliesToEntryType journey.entryType = false)
        "current_stage" "Этот этап не применим к выбранному типу входа." [])
  let schemeErrors := putErrorIf (stored ≠ journey.stageScheme) "stage_scheme"
      "Смена схемы требует отдельного согласованного переноса." stageErrors
  if journey.HasCompletionData then
    let doneErrors := putErrorIf (stage.group ≠ .done) "completion_status"
        "Результат ИС можно сохранить только на финальном этапе."
        schemeErrors
    let dateErrors :=
      cleanCompletedAt journey today (cleanCompletionStatus journey doneErrors)
    putErrorIf (journey.completionStatus = .terminated ∧
        strip journey.completionComment = [])
      "completion_comment"
      "При прекращении испытательного срока укажи причину." dateErrors
  else
    schemeErrors

/-- The field checks of `full_clean` on columns with choices or bounds. -/
def cleanFields : List (String × String) :=
  let entryErrors :=
    putErrorIf (¬ journey.entryType.IsKnown) "entry_type" "invalid_choice" []
  let schemeErrors := putErrorIf (¬ journey.stageScheme.IsKnown) "stage_scheme"
      "invalid_choice" entryErrors
  let riskErrors :=
    putErrorIf (journey.manualRiskOverride ∉ ["", "low", "medium", "high"])
      "manual_risk_override" "invalid_choice" schemeErrors
  let qualityErrors :=
    putErrorIf (∃ percent ∈ journey.fixedQualityPercent, 100 < percent)
      "fixed_quality_percent" "max_value" riskErrors
  putErrorIf
    (¬ (journey.completionStatus = .empty ∨ journey.completionStatus.IsKnown))
    "completion_status" "invalid_choice" qualityErrors

/-- `full_clean`. -/
def fullClean (today : Day) : Op PUnit := do
  let session ← inspect
  let stage ← stageOf session.journey.currentStageId
  let errors := cleanFields session.journey ++
      clean stage session.diary.journey.stageScheme session.journey today
  ensure (errors = []) (.fields errors)

/-! ## `move_to_stage` -/

/-- The metric with a quality that has the largest number of a week. -/
def latestQualityMetric? (metrics : List WeeklyMetric) : Option WeeklyMetric :=
  ((metrics.filter fun metric => metric.qualityPercent.isSome).insertionSort
    fun first second => second.weekNumber ≤ first.weekNumber).head?

/-- `_apply_quality_stage_transition`: what becomes of the object. -/
def applyQualityStageTransition
    (previous new : TraineeStage) (metrics : List WeeklyMetric)
    (transitionDate : Day) (journey : TraineeJourney) : TraineeJourney :=
  if previous.group ≠ .withReview ∧ new.group = .withReview then
    { journey with fixedQualityPercent := none, qualityFixedAt := none }
  else if previous.group = .withReview ∧ new.group ≠ .withReview then
    match latestQualityMetric? metrics with
    | none =>
        { journey with fixedQualityPercent := none, qualityFixedAt := none }
    | some metric =>
        { journey with
          fixedQualityPercent := metric.qualityPercent
          qualityFixedAt := some transitionDate }
  else
    journey

/-- The row with the stage, its date and the quality of the object. -/
def TraineeJourney.withStageOf
    (row journey : TraineeJourney) : TraineeJourney :=
  { row with
    currentStageId := journey.currentStageId
    stageStartedAt := journey.stageStartedAt
    fixedQualityPercent := journey.fixedQualityPercent
    qualityFixedAt := journey.qualityFixedAt }

/-- The history with the open rows ended. -/
def endOpen
    (transitionDate : Day) (history : List StageHistory) : List StageHistory :=
  Timelines.closeOpen StageHistory.endedAt
    (fun row => { row with endedAt := some transitionDate }) history

/-- The rows after a transition of the object. -/
def Diary.moved
    (diary : Diary) (journey : TraineeJourney) (newStage : TraineeStage)
    (changedBy : Option User) (note : Text) (transitionDate : Day) : Diary :=
  { diary with
    journey := diary.journey.withStageOf journey
    history := endOpen transitionDate diary.history ++
        [{ id := diary.historySequence
           journeyId := journey.id
           stageId := newStage.id
           startedAt := transitionDate
           endedAt := none
           changedById := changedBy.map User.id
           note := strip note }]
    historySequence := diary.historySequence + 1 }

/-- The event that a member of the staff publishes may be refused. -/
def publish (user : Option User) (accepted : Bool) : Op PUnit :=
  ensure ((∃ actor ∈ user, actor.isStaff = true) → accepted = true) .source

/-- The transaction of `move_to_stage`. -/
def moving
    (previous newStage : TraineeStage) (changedBy : Option User) (note : Text)
    (transitionDate today : Day) (accepted : Bool) : Op PUnit := do
  assign fun journey =>
    { journey with
      currentStageId := newStage.id
      stageStartedAt := transitionDate }
  let session ← inspect
  assign (applyQualityStageTransition previous newStage session.diary.metrics
      transitionDate)
  fullClean today
  let cleaned ← inspect
  write fun diary =>
    diary.moved cleaned.journey newStage changedBy note transitionDate
  publish changedBy accepted

/-- `move_to_stage`: the previous stage. -/
def moveToStage (newStage : TraineeStage) (changedBy : Option User)
    (note : Text) (transitionDate : Option Day) (today : Day)
    (accepted : Bool) : Op TraineeStage := do
  let session ← inspect
  let previous ← stageOf session.journey.currentStageId
  if session.journey.currentStageId = newStage.id then
    pure previous
  else do
    ensure (∃ stage ∈ stage? session.diary.stages newStage.id,
        IsSelectable session.journey.stageScheme session.journey.entryType
          stage)
      (.fields [("current_stage",
          "Переход на этот этап не разрешён для данной схемы и типа входа.")])
    let date := transitionDate.getD today
    ensure (date ≤ today) (.fields [("stage_started_at",
          "Дата начала нового этапа не может быть в будущем.")])
    ensure (session.journey.stageStartedAt ≤ date) (.fields
        [("stage_started_at",
          "Дата начала нового этапа не может быть раньше " ++
            "даты начала текущего этапа.")])
    restoring (fun first next =>
        { next with journey := next.journey.withStageOf first.journey })
      (atomic (moving previous newStage changedBy note date today accepted))
    pure previous

/-! ## `complete_probation` -/

/-- The row with the completion of the object. -/
def TraineeJourney.withCompletionOf
    (row journey : TraineeJourney) : TraineeJourney :=
  { row with
    completionStatus := journey.completionStatus
    completedAt := journey.completedAt
    completionComment := journey.completionComment
    completedById := journey.completedById }

/-- The errors in the values that a completion is asked for with. -/
def completionErrors (status : CompletionStatus)
    (completedAt today : Day) (comment : Text) : List (String × String) :=
  let dateErrors :=
    if completedAt < journey.probationStartDate then
      putError "completed_at"
        "Дата завершения не может быть раньше даты начала ИС." []
    else
      putErrorIf (today < completedAt) "completed_at"
        "Дата завершения не может быть в будущем." []
  putErrorIf (status = .terminated ∧ comment = []) "completion_comment"
    "При прекращении испытательного срока укажи причину." dateErrors

/-- The final stage that a completion moves to. -/
def doneStage? (stages : List TraineeStage) (journey : TraineeJourney)
    (current : TraineeStage) : Option TraineeStage :=
  if current.group = .done then
    some current
  else
    (inOrder (stages.filter fun stage =>
        decide ((IsSelectable journey.stageScheme journey.entryType stage ∨
              stage.id = journey.currentStageId) ∧
            stage.group = .done ∧ stage.isActive = true))).head?

/-- `CompletionStatus(status).label`. -/
def CompletionStatus.label : CompletionStatus → Text
  | .success => "Испытательный срок успешно пройден".toList
  | .terminated => "Испытательный срок прекращён".toList
  | _ => []

/-- The transaction of `complete_probation`. -/
def completing
    (done : TraineeStage) (status : CompletionStatus) (completedAt : Day)
    (completedBy : Option User) (comment : Text) (today : Day)
    (accepted completionAccepted : Bool) : Op TraineeStage := do
  assign fun journey =>
    { journey with
      completionStatus := status
      completedAt := some completedAt
      completionComment := comment
      completedById := completedBy.map User.id }
  let previous ← moveToStage done completedBy
      (if comment = [] then status.label else comment) (some completedAt)
      today accepted
  fullClean today
  let session ← inspect
  write fun diary =>
    { diary with journey := diary.journey.withCompletionOf session.journey }
  publish (if status = .success then completedBy else none) completionAccepted
  pure previous

/-- `complete_probation`: the previous stage. -/
def completeProbation (status : CompletionStatus) (completedAt : Option Day)
    (completedBy : Option User) (comment : Text) (today : Day)
    (accepted completionAccepted : Bool) : Op TraineeStage := do
  let date := completedAt.getD today
  let reason := strip comment
  ensure status.IsKnown (.fields [("completion_status",
        "Указан неизвестный результат испытательного срока.")])
  let session ← inspect
  let errors := completionErrors session.journey status date today reason
  ensure (errors = []) (.fields errors)
  let current ← stageOf session.journey.currentStageId
  ensure (¬ (current.group = .done ∧ session.journey.completionStatus ≠ .empty))
    (.message "Испытательный срок уже завершён.")
  let done ← required (.fields [("current_stage",
          "Не найден активный финальный этап для этого типа входа.")])
      (doneStage? session.diary.stages session.journey current)
  restoring (fun first next =>
      { next with
        journey := (next.journey.withStageOf first.journey).withCompletionOf
            first.journey })
    (atomic (completing done status date completedBy reason today accepted
        completionAccepted))

end TicketSandbox.TraineeDiary
