import TicketSandbox.Library.Findings
import TicketSandbox.TraineeDiary.Transitions

namespace TicketSandbox.TraineeDiary

/-!
# Readers of the history

`history_for` of the achievements and `check_journey_integrity`.  Both read the
card from the object in memory and the visits from the rows.  A training
program that is missing, where Django raises, is no stage here.
-/

open Sandbox (Pk Text strip)

/-- `effective_stage` of a row, under the card in memory. -/
def Session.effectiveStage?
    (session : Session) (row : StageHistory) : Option TraineeStage :=
  effectiveHistoryStage? session.diary.stages session.journey
    session.diary.transfer row

/-- The row is a visit of the stage of the card, at its date. -/
def Session.IsCurrent (session : Session) (row : StageHistory) : Prop :=
  (session.effectiveStage? row).map TraineeStage.id =
      some session.journey.currentStageId ∧
    row.startedAt = session.journey.stageStartedAt
  deriving Decidable

/-! ## `history_for` -/

/-- What `history_for` asks of a visit by itself. -/
def Session.VisitAgrees
    (session : Session) (today : Day) (visit : StageHistory) : Prop :=
  (session.journey.probationStartDate ≤ visit.startedAt ∧
      visit.startedAt ≤ today) ∧
    (∃ stage ∈ session.effectiveStage? visit,
      StageApplies stage session.journey.stageScheme
        session.journey.entryType) ∧
    ∀ ended ∈ visit.endedAt, visit.startedAt ≤ ended ∧ ended ≤ today
  deriving Decidable

/-- What `history_for` asks of the visits in their order. -/
def Session.VisitsAgree (session : Session) (today : Day) :
    List StageHistory → Prop
  | [] => True
  | [visit] =>
      session.VisitAgrees today visit ∧ visit.endedAt = none ∧
        session.IsCurrent visit
  | visit :: next :: rest =>
      session.VisitAgrees today visit ∧ visit.endedAt = some next.startedAt ∧
        session.VisitsAgree today (next :: rest)

instance decidableVisitsAgree (session : Session) (today : Day) :
    (visits : List StageHistory) → Decidable (session.VisitsAgree today visits)
  | [] => inferInstanceAs (Decidable True)
  | [_] => inferInstanceAs (Decidable (_ ∧ _ ∧ _))
  | _ :: next :: rest =>
      have := decidableVisitsAgree session today (next :: rest)
      inferInstanceAs (Decidable (_ ∧ _ ∧ _))

/-- `history_for`. -/
def historyFor?
    (session : Session) (today : Day) : Option (List StageHistory) :=
  let visits := chronological session.diary.history
  if visits = [] ∨ today < session.journey.probationStartDate then none
  else if session.VisitsAgree today visits then some visits
  else none

/-! ## `check_journey_integrity` -/

/-- The code of an issue. -/
inductive IssueCode where
  | probationStartInFuture
  | stageBeforeProbation
  | stageStartInFuture
  | stageNotApplicable
  | stageSchemeMismatch
  | noStageHistory
  | openHistoryCount
  | currentStageMismatch
  | currentStageDateMismatch
  | firstHistoryDateMismatch
  | invalidHistoryInterval
  | openHistoryNotLast
  | historyGap
  | historyOverlap
  | doneWithoutCompletionStatus
  | doneWithoutCompletedAt
  | completionDataOutsideDone
  | unknownCompletionStatus
  | terminatedWithoutComment
  | completionBeforeProbation
  | completionInFuture
  | doneStageDateMismatch
  deriving Repr, DecidableEq

/-- `TraineeIntegrityIssue`, of one card and user. -/
structure TraineeIntegrityIssue where
  code : IssueCode
  message : String

/-- `add_issue` where the condition holds. -/
def addIssueIf (condition : Prop) [Decidable condition] (code : IssueCode)
    (message : String) : List TraineeIntegrityIssue :=
  Findings.when condition { code, message }

/-- The part about the dates and the stage of the card. -/
def stageIssues (journey : TraineeJourney) (stage : TraineeStage)
    (today : Day) : List TraineeIntegrityIssue :=
  addIssueIf (today < journey.probationStartDate) .probationStartInFuture
      "Дата начала испытательного срока находится в будущем." ++
    addIssueIf (journey.stageStartedAt < journey.probationStartDate)
      .stageBeforeProbation
      "Текущий этап начался раньше испытательного срока." ++
    addIssueIf (today < journey.stageStartedAt) .stageStartInFuture
      "Дата начала текущего этапа находится в будущем." ++
    addIssueIf (stage.appliesToEntryType journey.entryType = false)
      .stageNotApplicable
      "Текущий этап не применяется к выбранному типу входа." ++
    addIssueIf (¬ StageApplies stage journey.stageScheme journey.entryType)
      .stageSchemeMismatch
      "Текущий этап не соответствует схеме адаптации."

/-- The part about the open rows. -/
def openIssues (session : Session)
    (entries : List StageHistory) : List TraineeIntegrityIssue :=
  match entries.filter fun entry => entry.endedAt.isNone with
  | [entry] =>
      addIssueIf ((session.effectiveStage? entry).map TraineeStage.id ≠
            some session.journey.currentStageId)
          .currentStageMismatch
          "Текущий этап карточки не совпадает с открытой записью истории." ++
        addIssueIf (entry.startedAt ≠ session.journey.stageStartedAt)
          .currentStageDateMismatch
          ("Дата начала текущего этапа не совпадает с открытой " ++
            "записью истории.")
  | openEntries =>
      [{ code := .openHistoryCount
         message := "Ожидалась одна открытая запись истории, найдено " ++
             toString openEntries.length ++ "." }]

/-- The part about the first row. -/
def firstIssues (journey : TraineeJourney) :
    List StageHistory → List TraineeIntegrityIssue
  | [] => []
  | entry :: _ =>
      addIssueIf (entry.startedAt ≠ journey.probationStartDate)
        .firstHistoryDateMismatch
        ("Первая запись истории начинается не с даты старта " ++
          "испытательного срока.")

/-- The part about a row by itself. -/
def intervalIssues (entry : StageHistory) : List TraineeIntegrityIssue :=
  addIssueIf (∃ ended ∈ entry.endedAt, ended < entry.startedAt)
    .invalidHistoryInterval
    ("Запись истории #" ++ toString entry.id ++
      " заканчивается раньше, чем начинается.")

/-- The part about two rows in a sequence. -/
def linkIssues (previous next : StageHistory) : List TraineeIntegrityIssue :=
  match previous.endedAt with
  | none =>
      [{ code := .openHistoryNotLast
         message := "Запись истории #" ++ toString previous.id ++
             " остаётся открытой, хотя после неё есть другой этап." }]
  | some ended =>
      if ended < next.startedAt then
        [{ code := .historyGap
           message :=
             "Между записями истории #" ++ toString previous.id ++ " и #" ++
               toString next.id ++ " есть пропуск по датам." }]
      else
        addIssueIf (next.startedAt < ended) .historyOverlap
          ("Записи истории #" ++ toString previous.id ++ " и #" ++
            toString next.id ++ " пересекаются по датам.")

/-- The part about all pairs of neighbours. -/
def chainIssues : List StageHistory → List TraineeIntegrityIssue
  | previous :: next :: rest =>
      linkIssues previous next ++ chainIssues (next :: rest)
  | _ => []

/-- The part about the completion of the probation. -/
def completionIssues (journey : TraineeJourney) (stage : TraineeStage)
    (today : Day) : List TraineeIntegrityIssue :=
  let comment := strip journey.completionComment
  let isDone := decide (stage.group = .done)
  addIssueIf (isDone = true ∧ journey.completionStatus = .empty)
      .doneWithoutCompletionStatus
      ("Карточка находится на финальном этапе, но результат " ++
        "испытательного срока не указан.") ++
    addIssueIf (isDone = true ∧ journey.completedAt = none)
      .doneWithoutCompletedAt
      ("Карточка находится на финальном этапе, но дата завершения " ++
        "не указана.") ++
    addIssueIf (isDone = false ∧
        (journey.completionStatus ≠ .empty ∨ journey.completedAt ≠ none ∨
          comment ≠ [] ∨ journey.completedById ≠ none))
      .completionDataOutsideDone
      ("Данные завершения заполнены, хотя сотрудник находится " ++
        "не на финальном этапе.") ++
    addIssueIf
      (journey.completionStatus ≠ .empty ∧ ¬ journey.completionStatus.IsKnown)
      .unknownCompletionStatus
      "Указан неизвестный результат испытательного срока." ++
    addIssueIf (journey.completionStatus = .terminated ∧ comment = [])
      .terminatedWithoutComment
      "Для прекращённого испытательного срока не указана причина." ++
    addIssueIf (∃ completed ∈ journey.completedAt,
        completed < journey.probationStartDate)
      .completionBeforeProbation
      "Дата завершения находится раньше даты начала ИС." ++
    addIssueIf (∃ completed ∈ journey.completedAt, today < completed)
      .completionInFuture
      "Дата завершения находится в будущем." ++
    addIssueIf (∃ completed ∈ journey.completedAt,
        isDone = true ∧ journey.stageStartedAt ≠ completed)
      .doneStageDateMismatch
      ("Дата перехода на финальный этап не совпадает с датой " ++
        "завершения ИС.")

/-- `check_journey_integrity`, where the current stage is given. -/
def checkJourneyIntegrity (session : Session) (stage : TraineeStage)
    (today : Day) : List TraineeIntegrityIssue :=
  let entries := chronological session.diary.history
  stageIssues session.journey stage today ++
    addIssueIf (entries = []) .noStageHistory
      "У карточки отсутствует история этапов." ++
    openIssues session entries ++
    firstIssues session.journey entries ++
    entries.flatMap intervalIssues ++
    chainIssues entries ++
    completionIssues session.journey stage today

end TicketSandbox.TraineeDiary
