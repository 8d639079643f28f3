import TicketSandbox.Library.Raises
import TicketSandbox.Library.Rows
import TicketSandbox.TraineeDiary.Transitions

namespace TicketSandbox.TraineeDiary

/-!
# Saving a weekly metric

`views/weekly_metrics.py` with `forms/weekly_metrics.py`, and
`save_metric_with_event`: a request reads the card, its history and the metric
of its week, fills in a copy of the metric, and writes the whole copy in a
transaction of its own.
-/

open Raises
open Sandbox (Pk Text strip)

/-! ## Reading -/

/-- `TICKET_METRIC_GROUPS`. -/
def ticketMetricGroups : List StageGroup :=
  [.withReview, .optionalReview, .noReview]

/-- The group of the stage with the primary key. -/
def group? (stages : List TraineeStage) (id : Pk) : Option StageGroup :=
  (stage? stages id).map TraineeStage.group

/-- The stage with the primary key is in one of the ticket groups. -/
def isTicketStage (stages : List TraineeStage) (id : Pk) : Bool :=
  (group? stages id).any fun group => decide (group ∈ ticketMetricGroups)

variable (diary : Diary)

/-- `_get_ticket_metrics_start_date`. -/
def ticketMetricsStartDate? : Option Day :=
  match ((diary.history.filter fun entry =>
        isTicketStage diary.stages entry.stageId).map
          StageHistory.startedAt).min? with
  | some date => some date
  | none =>
      if isTicketStage diary.stages diary.journey.currentStageId = true then
        some diary.journey.stageStartedAt
      else
        none

/-- The entry covers the date. -/
def StageHistory.covers (date : Day) (entry : StageHistory) : Bool :=
  decide (entry.startedAt ≤ date ∧ ∀ ended ∈ entry.endedAt, date < ended)

/-- `_get_stage_for_date`, the primary key of the stage. -/
def stageForDate? (date : Day) : Option Pk :=
  match (chronological (diary.history.filter
        (StageHistory.covers date))).getLast? with
  | some entry => some entry.stageId
  | none =>
      if isTicketStage diary.stages diary.journey.currentStageId = true ∧
          diary.journey.stageStartedAt ≤ date then
        some diary.journey.currentStageId
      else
        none

/-- The first metric of the week. -/
def metricOf? (metrics : List WeeklyMetric) (week : Nat) :
    Option WeeklyMetric :=
  metrics.find? fun metric => decide (metric.weekNumber = week)

/-- The largest number of a week, or zero. -/
def lastWeekNumber (metrics : List WeeklyMetric) : Nat :=
  Rows.largest WeeklyMetric.weekNumber metrics

/-- The date on which a week of the metrics starts. -/
def weekStartDate
    (existing : Option WeeklyMetric) (ticketStart : Day) (week : Nat) : Day :=
  (existing.bind WeeklyMetric.weekStartDate).getD (ticketStart + 7 * (week - 1))

/-- The stored card is on a stage with review. -/
def Diary.isOnReview : Bool :=
  decide (group? diary.stages diary.journey.currentStageId = some .withReview)

/-- `quality_editable`. -/
def qualityEditable (startDate : Day) : Bool :=
  ((stageForDate? diary startDate).any fun stageId =>
      decide (group? diary.stages stageId = some .withReview)) &&
    diary.isOnReview && diary.journey.fixedQualityPercent.isNone

/-! ## The form -/

/-- What a number field is submitted with; the form refuses what is invalid,
the model what is refused. -/
inductive NumberEntry where
  | missing
  | invalid (code : String)
  | refused (code : String)
  | value (number : Nat)

namespace NumberEntry

/-- The number, where there is one. -/
def value? : NumberEntry → Option Nat
  | .value number => some number
  | _ => none

/-- The errors of a required field of the form, with the one that `clean`
adds; a number may have too many whole digits. -/
def formErrors (field text : String) (bound : Option Nat) :
    NumberEntry → List (String × String)
  | .missing => [(field, "required"), (field, text)]
  | .invalid code => [(field, code), (field, text)]
  | .refused _ => []
  | .value number =>
      if ∃ most ∈ bound, most < number then
        [(field, "max_whole_digits"), (field, text)]
      else
        []

/-- The errors that the validators of the model add. -/
def modelErrors (field : String) (bound : Option Nat) :
    NumberEntry → List (String × String)
  | .missing | .invalid _ => []
  | .refused code => [(field, code)]
  | .value number =>
      if ∃ most ∈ bound, most < number then [(field, "max_value")] else []

end NumberEntry

/-- What `WeeklyMetricForm` is submitted with.  The speed is counted in tenths
of an hour; with more than five digits it is invalid, below zero refused. -/
structure WeeklyPost where
  speedHours : NumberEntry
  qualityPercent : NumberEntry
  mentorComment : Text
  nextWeekGoal : Text

/-- The errors of `WeeklyMetricForm`. -/
def weeklyErrors
    (qualityRequired : Bool) (post : WeeklyPost) : List (String × String) :=
  let quality (errors : List (String × String)) :=
    if qualityRequired = true then errors else []
  post.speedHours.formErrors "speed_hours" "Заполни скорость." (some 99999) ++
    quality (post.qualityPercent.formErrors "quality_percent"
      "Заполни качество." none) ++
    post.speedHours.modelErrors "speed_hours" none ++
    quality (post.qualityPercent.modelErrors "quality_percent" (some 100))

/-- A copy of a metric in memory, new when it has no primary key. -/
structure PreparedMetric where
  id : Option Pk
  weekNumber : Nat
  weekStartDate : Day
  speedHours : Option Nat
  qualityPercent : Option Nat
  mentorComment : Text
  nextWeekGoal : Text

/-- The copy that the form fills in. -/
def preparedMetric
    (existing : Option WeeklyMetric) (week : Nat) (startDate : Day)
    (qualityRequired : Bool) (post : WeeklyPost) : PreparedMetric where
  id := existing.map WeeklyMetric.id
  weekNumber := week
  weekStartDate := startDate
  speedHours := post.speedHours.value?
  qualityPercent :=
    if qualityRequired = true then post.qualityPercent.value?
    else existing.bind WeeklyMetric.qualityPercent
  mentorComment := strip post.mentorComment
  nextWeekGoal := strip post.nextWeekGoal

/-! ## The view -/

/-- Why a metric is not saved. -/
inductive MetricRefusal where
  | permissionDenied
  | message (text : String)
  | fields (errors : List (String × String))
  | integrityError
  | source

/-- `save_weekly_metric` up to the transaction. -/
def prepareMetric (isStaff : Bool) (week : Nat)
    (post : WeeklyPost) : Except MetricRefusal PreparedMetric := do
  ensure (isStaff = true) .permissionDenied
  ensure (isTicketStage diary.stages diary.journey.currentStageId = true)
    (.message
      "Недельные метрики доступны только после выхода в реальные тикеты.")
  ensure (1 ≤ week) (.message "Номер недели должен быть больше нуля.")
  ensure (metricOf? diary.metrics week = none →
      week = lastWeekNumber diary.metrics + 1)
    (.message ("Нельзя добавить неделю " ++ toString week ++
        ": сначала заполни неделю " ++
        toString (lastWeekNumber diary.metrics + 1) ++ "."))
  let ticketStart ←
    required (.message "Не удалось определить дату выхода в тикеты.")
      (ticketMetricsStartDate? diary)
  let startDate := weekStartDate (metricOf? diary.metrics week) ticketStart week
  let editable := qualityEditable diary startDate
  ensure (weeklyErrors editable post = [])
    (.fields (weeklyErrors editable post))
  pure
    (preparedMetric (metricOf? diary.metrics week) week startDate editable post)

/-- A request that reads the card may grade the week. -/
def Diary.grades (week : Nat) : Bool :=
  (ticketMetricsStartDate? diary).any fun ticketStart =>
    qualityEditable diary
      (weekStartDate (metricOf? diary.metrics week) ticketStart week)

/-- The quality of the week, where it is graded. -/
def Diary.qualityOf? (week : Nat) : Option Nat :=
  (metricOf? diary.metrics week).bind WeeklyMetric.qualityPercent

/-- What a prepared metric has from the form and the diary. -/
theorem prepareMetric_copy {diary : Diary} {isStaff : Bool} {week : Nat}
    {post : WeeklyPost} {prepared : PreparedMetric}
    (returned : prepareMetric diary isStaff week post = .ok prepared) :
    prepared.id = (metricOf? diary.metrics week).map WeeklyMetric.id ∧
      prepared.weekNumber = week ∧ prepared.qualityPercent =
        if diary.grades week = true then
          post.qualityPercent.value?
        else
          diary.qualityOf? week := by
  simp only [prepareMetric, bind_ok, ensure_ok,
    required_ok, pure_ok] at returned
  obtain ⟨_, _, _, _, _, _, _, _, ticketStart, isStart, _, _, rfl⟩ := returned
  refine ⟨rfl, rfl, ?_⟩
  simp only [preparedMetric, Diary.grades, isStart, Option.any_some]
  rfl

/-! ## The transaction -/

/-- The row that the copy is saved as. -/
def PreparedMetric.row
    (prepared : PreparedMetric) (journeyId id : Pk) : WeeklyMetric where
  id := id
  journeyId := journeyId
  weekNumber := prepared.weekNumber
  weekStartDate := some prepared.weekStartDate
  speedHours := prepared.speedHours.map Int.ofNat
  qualityPercent := prepared.qualityPercent
  mentorComment := prepared.mentorComment
  nextWeekGoal := prepared.nextWeekGoal

/-- The metrics of one card, and the next primary key of a metric. -/
structure MetricTable where
  journeyId : Pk
  metrics : List WeeklyMetric
  sequence : Pk
  deriving Repr, DecidableEq

namespace MetricTable

/-- The stored row that the copy was made of. -/
def stored? (table : MetricTable) (prepared : PreparedMetric) :
    Option WeeklyMetric :=
  prepared.id.bind fun id =>
    table.metrics.find? fun metric => decide (metric.id = id)

/-- The insertion of a row, under the unique pair of card and week. -/
def insert (table : MetricTable) (row : WeeklyMetric) :
    Except MetricRefusal MetricTable := do
  ensure (∀ other ∈ table.metrics, other.weekNumber ≠ row.weekNumber)
    .integrityError
  pure
    { table with
      metrics := table.metrics ++ [row]
      sequence := table.sequence + 1 }

/-- `metric.save()`: every column of the copy is written. -/
def save (table : MetricTable) (prepared : PreparedMetric) :
    Except MetricRefusal MetricTable :=
  match table.stored? prepared with
  | some stored =>
      .ok
        { table with
          metrics := Rows.modify WeeklyMetric.id stored.id
              (fun _ => prepared.row table.journeyId stored.id)
              table.metrics }
  | none =>
      table.insert
        (prepared.row table.journeyId (prepared.id.getD table.sequence))

end MetricTable

/-- `metric_values`, of what a change is published for. -/
def WeeklyMetric.values (metric : WeeklyMetric) :
    Nat × Option Day × Option Nat × Option Int :=
  (metric.weekNumber, metric.weekStartDate, metric.qualityPercent,
    metric.speedHours)

/--
`save_metric_with_event`; the event of a change may be refused.  The staff
check is the one of the view.
-/
def saveMetricWithEvent (table : MetricTable) (prepared : PreparedMetric)
    (accepted : Bool) : Except MetricRefusal MetricTable := do
  let saved ← table.save prepared
  ensure ((table.stored? prepared).map WeeklyMetric.values =
        some (prepared.row table.journeyId 0).values ∨
      accepted = true)
    .source
  pure saved

end TicketSandbox.TraineeDiary
