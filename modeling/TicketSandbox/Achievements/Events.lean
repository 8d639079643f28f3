import TicketSandbox.Achievements.Reconciliation

namespace TicketSandbox.Achievements.Events

/-!
# Source events

`services/events.py`: the durable record of what happened elsewhere, and the
processing that evaluates the affected families and grants what was earned.
-/

open Raises
open Sandbox (Pk Timestamp Text)
open Grants Reconciliation

/-- `PROVIDERS`: the families that a source event of the provider affects. -/
def evaluatorKeys? : Provider → Option (List String)
  | .roadmapConfirmation => some ["training_program"]
  | .sandboxCompletion =>
      some ["sandbox_program", "sandbox_first_success",
          "sandbox_five_successes", "sandbox_first_five_clean_answers"]
  | .sandboxTechnical =>
      some ["sandbox_program", "sandbox_first_success",
          "sandbox_five_successes", "sandbox_first_five_clean_answers"]
  | .sandboxReview =>
      some ["sandbox_program", "sandbox_first_five_clean_answers"]
  | .weeklyMetric => some ["review_quality", "independent_speed"]
  | .stageTransition =>
      some ["independent_engineer", "review_quality", "independent_speed"]
  | .probationCompletion => some ["probation_new_hire"]
  | .other _ => none

/-- The text in the column of the provider. -/
def providerName : Provider → String
  | .roadmapConfirmation => "roadmap_confirmation"
  | .sandboxCompletion => "sandbox_completion"
  | .sandboxTechnical => "sandbox_technical"
  | .sandboxReview => "sandbox_review"
  | .weeklyMetric => "weekly_metric"
  | .stageTransition => "stage_transition"
  | .probationCompletion => "probation_completion"
  | .other name => name

variable (db : Db)

/-- The row that `publish` inserts. -/
def newSource (provider : Provider) (externalId : String) (userId : Pk)
    (payload : Payload) (availableAt : Option Timestamp)
    (now : Timestamp) : AchievementSourceEvent where
  pk := db.serial
  provider := provider
  externalId := externalId
  schemaVersion := 1
  userId := userId
  payload := payload
  createdAt := now
  availableAt := availableAt
  status := .pending
  attempts := 0
  error := ""
  processedAt := none
  result := []

/-- `publish`, without the wake that follows its commit. -/
def publish (provider : Provider) (externalId : String) (userId : Pk)
    (payload : Payload) (availableAt : Option Timestamp)
    (now : Timestamp) : Except Failure (Db × AchievementSourceEvent) := do
  ensure (evaluatorKeys? provider).isSome (.validation "Неизвестный provider.")
  match db.sources.find? fun row =>
      decide (row.provider = provider ∧ row.externalId = externalId) with
  | some event =>
      ensure (event.userId = userId ∧ event.payload = payload)
        (.validation "Повторный ID источника с другим содержимым.")
      return (db, event)
  | none =>
      let event := newSource db provider externalId userId payload
        availableAt now
      return ({ db with
          serial := db.serial + 1
          sources := db.sources ++ [event] }, event)

variable (world : World) (event : AchievementSourceEvent)

/-- The metric that a weekly source event is about. -/
def metric? (metricId : Pk) : Option WeeklyMetric :=
  world.metrics.find? fun row =>
    decide (row.pk = metricId ∧ row.userId = event.userId)

/-- One round of the loop that disputes the proofs resting on a metric. -/
def disputeChanged (metricId : Pk) (now : Timestamp) (db : Db)
    (entitlement : UserAchievement) : Except Failure Db :=
  flagIf ((proof? db entitlement.pk).any (fun proof =>
        decide (proof.evidence.metricId = some metricId)) ∧
      (currentMetricProblem db world.metrics (some entitlement)).isSome)
    db
    { userId := event.userId
      metricId := some metricId
      source := .event event.pk
      definitionId := some entitlement.definitionId }
    now

variable (now : Timestamp)

/-- The disputes that a weekly metric event raises. -/
def disputeMetric : Except Failure Db := do
  let metricId ← required (.missingKey "metric_id") event.payload.metricId
  match metric? world event metricId with
  | none =>
      flagDisputed db
        { userId := event.userId
          metricId := some metricId
          source := .event event.pk }
        now
  | some _ =>
      (activeOf db event.userId).foldlM
        (disputeChanged world event metricId now) db

/-- Only weekly metric events dispute the proofs resting on a metric. -/
def disputeIfWeekly : Except Failure Db :=
  if event.provider = .weeklyMetric then disputeMetric db world event now
  else .ok db

/-- The disputes that the event raises before anything is evaluated. -/
def disputeSources : Except Failure Db := do
  let checked ← disputeIfWeekly db world event now
  flagIf (event.provider = .roadmapConfirmation ∧
      event.payload.action = some "revoked")
    checked
    { userId := event.userId
      confirmationRevoked := true
      source := .event event.pk }
    now

/-- The grant that an eligible evaluation asks for. -/
def sourcedGrant (definition : AchievementDefinition)
    (evaluation : Evaluation) : GrantRequest where
  userId := event.userId
  definitionId := definition.pk
  tierCode := evaluation.tierCode.getD ""
  evidence := evaluation.evidence
  occurredAt := evaluation.occurredAt.elim .missing .aware
  sourceType := providerName event.provider
  sourceRef := eventRef event.pk
  ruleVersion := evaluation.ruleVersion
  operationId := ("source:" ++ toString event.pk ++ ":" ++
      toString (db.digest (.report evaluation))).toList

/-- The grant of an eligible evaluation, and the result to report. -/
def grantIfEligible (db checked : Db) (event : AchievementSourceEvent)
    (definition : AchievementDefinition) (evaluation : Evaluation)
    (now : Timestamp) : Except Failure (Db × SourceResult) :=
  if evaluation.status = .eligible then do
    let granted ← grant checked
      (sourcedGrant db event definition evaluation) now
    return (granted.1, .evaluated definition.code evaluation
        (some (granted.2.outcome, granted.2.eventId)))
  else
    .ok (checked, .evaluated definition.code evaluation none)

/-- One round of the loop that evaluates the affected families. -/
def evaluateOne
    (progress : Db × List SourceResult) (definition : AchievementDefinition) :
    Except Failure (Db × List SourceResult) := do
  let evaluation := world.evaluate event.userId definition
  let checked ← flagIf (event.provider = .sandboxReview ∧
      sandboxProblem progress.1 event.userId definition evaluation)
    progress.1
    { userId := event.userId
      definitionId := some definition.pk
      source := .event event.pk
      sandboxInvalid := true }
    now
  let granted ← grantIfEligible progress.1 checked event definition
    evaluation now
  return (granted.1, progress.2 ++ [granted.2])

/-- The disputes and grants of one source event, and their results. -/
def evaluateSource (keys : List String)
    (now : Timestamp) : Except Failure (Db × List SourceResult) := do
  let disputed ← disputeSources db world event now
  let definitions := disputed.catalog.definitions.filter fun row =>
      decide (row.evaluatorKey ∈ keys)
  ensure (definitions ≠ []) (.validation
      "Каталог evaluator отсутствует; источник ожидает повторной обработки.")
  definitions.foldlM (evaluateOne world event now) (disputed, [])

/-- When a weekly event has to be looked at again, its week being unfinished. -/
def readyAgain? : Option Timestamp := do
  guard (event.provider = .weeklyMetric)
  let metricId ← event.payload.metricId
  let current ← metric? world event metricId
  let start ← current.weekStartDate
  let ready := world.atDate (start + 7)
  guard (now < ready)
  return ready

/-- The processed event, with its results. -/
def finished
    (results : List SourceResult) (now : Timestamp) : AchievementSourceEvent :=
  match readyAgain? world event now with
  | some ready =>
      { event with
        status := .pending
        availableAt := some ready
        attempts := event.attempts + 1
        error := ""
        result := results
        processedAt := none }
  | none =>
      { event with
        status := .processed
        attempts := event.attempts + 1
        error := ""
        result := results
        processedAt := some now }

/-- `event.save(update_fields=...)`. -/
def saveSource : Db :=
  { db with
    sources := Rows.modify AchievementSourceEvent.pk event.pk (fun _ => event)
        db.sources }

/-- The part of `_process` that a vanished adaptation skips. -/
def evaluateIfKnown (keys : List String)
    (now : Timestamp) : Except Failure (Db × List SourceResult) :=
  if event.payload.journeyId.any fun journey =>
      !world.hasJourney journey event.userId then
    .ok (db, [.notice "unknown" "source_adaptation_no_longer_available"])
  else
    evaluateSource db world event keys now

/-- `_process`. -/
def process (eventId : Pk)
    (now : Timestamp) : Except Failure (Db × List SourceResult) := do
  let event ← required (.doesNotExist "AchievementSourceEvent")
    (db.source? eventId)
  lockUser db event.userId
  if event.status = .processed then
    return (db, event.result)
  if event.availableAt.any fun instant => decide (now < instant) then
    return (db, [.notice "pending" "period_not_finished"])
  let keys ← required (.validation "Неизвестный provider/schema.")
    (evaluatorKeys? event.provider)
  ensure (event.schemaVersion = 1) (.validation "Неизвестный provider/schema.")
  let evaluated ← evaluateIfKnown db world event keys now
  ensure (event.provider = .weeklyMetric → event.payload.metricId.isSome)
    (.missingKey "metric_id")
  return (saveSource evaluated.1 (finished world event evaluated.2 now),
    evaluated.2)

/-- The text of an error in the column of a source event. -/
def errorText : Failure → String
  | .permissionDenied => "PermissionDenied: "
  | .validation message => "ValidationError: ['" ++ message ++ "']"
  | .grantConflict message => "GrantConflict: " ++ message
  | .doesNotExist model =>
      "DoesNotExist: " ++ model ++ " matching query does not exist."
  | .integrity => "IntegrityError: "
  | .missingKey key => "KeyError: '" ++ key ++ "'"
  | .noProof => "AttributeError: 'NoneType' object has no attribute 'pk'"

/-- The update of the `except` branch of `process_source_event`. -/
def markFailed (eventId : Pk) (failure : Failure) : Db :=
  { db with
    sources := Rows.modify AchievementSourceEvent.pk eventId (fun event =>
          if event.status = .processed then
            event
          else
            { event with
              status := .error
              attempts := event.attempts + 1
              error := String.ofList ((errorText failure).toList.take 2000) })
        db.sources }

/--
`process_source_event`: the database after it, and what it returns or raises.
-/
def processSourceEvent (eventId : Pk)
    (now : Timestamp) : Db × Except Failure (List SourceResult) :=
  match process db world eventId now with
  | .ok (next, results) => (next, .ok results)
  | .error failure => (markFailed db eventId failure, .error failure)

end TicketSandbox.Achievements.Events
