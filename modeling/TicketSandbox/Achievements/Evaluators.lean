import TicketSandbox.Achievements.SandboxAdvanced
import TicketSandbox.TraineeDiary.Completions

namespace TicketSandbox.Achievements.Evaluators

/-!
# Evaluators

`services/evaluators/`: what `evaluate` finds for a user in the tables of the
other applications.  It answers nothing where Python raises.  The clock is read
once.
-/

open Sandbox (Pk Timestamp)
open Catalog Reconciliation SandboxAdvanced
open TraineeDiary (Day Diary Session StageGroup StageHistory TraineeStage User)

/-! ## What is read -/

/-- A row of `roadmap_confirmation_events`, with whether its actor is staff. -/
structure ConfirmationEvent where
  id : Pk
  action : String
  actorIsStaff : Bool
  createdAt : Timestamp

/-- An entry of the snapshot of a completion.  A value of another type than
its field has, and a text that is no date, is absent. -/
structure SnapshotEntry where
  taskId : Option Int
  attemptId : Option Int
  evidenceSource : String
  checkRunId : Option (Option Int)
  passedAt : Option Moment
  deriving Repr, DecidableEq

/-- The snapshot of a completion, with the entries that are no objects absent.
-/
structure Snapshot where
  schemaVersion : Option Int
  tasks : Option (List (Option SnapshotEntry))

/-- `SandboxProgramCompletion`; a snapshot that is no object is absent. -/
structure ProgramCompletion where
  pk : Pk
  completedAt : Timestamp
  source : String
  compositionFingerprint : String
  snapshot : Option Snapshot

/-- A first attempt at a task of the program, with its first successful check.
-/
structure CreditAttempt where
  pk : Pk
  taskId : Pk
  technicalPassedAt : Option Timestamp
  technicalCheck : Option (Pk × Timestamp)

/-- A credited success of a task. -/
structure Success where
  taskId : Pk
  attemptId : Pk
  passedAt : Timestamp
  checkRunId : Option Pk
  completionId : Option Pk

/-- What the evidence of an evaluation says beside the keys that the services
read again. -/
inductive Details where
  | confirmation (id : Pk)
  | completion (id : Pk) (source fingerprint : String) (taskIds : List Pk)
  | successes (tasks : List Success)
  | week (weekNumber : Nat) (periodEnd : Day) (stageHistoryId stageId : Pk)
      (group : StageGroup)
  | probation (journeyId : Pk) (startDate completionDate : Day)
      (dayNumber : Nat) (confirmedBy : Option Pk)
  | transition (fromVisit toVisit : Pk) (confirmedBy : Option Pk)

/--
The tables of the other applications, as one user is seen in them: the card of
the diary with its rows, the confirmations of the program, the saved completion
and the attempts of the sandbox, and the ledger.  `today` and `atDate` are the
local date and the local midnight of a date; `fingerprint`, `ledgerEvidence`
and `write` are how values are serialised.
-/
structure Sources where
  diary : Option Diary
  users : List User
  confirmations : List ConfirmationEvent
  completion : Option ProgramCompletion
  attempts : List LinkedAttempt
  creditAttempts : List CreditAttempt
  ledger : Proof
  today : Day
  atDate : Day → Timestamp
  fingerprint : List Int → String
  ledgerEvidence : Proof → Evidence
  write : Details → String

variable (sources : Sources)

/-- Midnight of a date that has come is not in the future. -/
def Sources.IsTimely (now : Timestamp) : Prop :=
  ∀ date, date ≤ sources.today → sources.atDate date ≤ now

/-! ## Completions of the program -/

/-- The value is an integer above zero. -/
def isId (value : Option Int) : Bool :=
  value.any fun id => decide (0 < id)

/-- A list of one error where the condition holds. -/
def errorIf
    (condition : Prop) [Decidable condition] (error : String) : List String :=
  if condition then [error] else []

/-- The time of an entry does not come after its completion. -/
def isWithin (completedAt : Timestamp) : Moment → Bool
  | .aware instant => decide (instant ≤ completedAt)
  | .naive _ => false

/-- The errors about the time of an entry. -/
def timeErrors
    (completedAt : Timestamp) (passedAt : Option Moment) : List String :=
  match passedAt with
  | none => ["Нужна дата технического доказательства."]
  | some moment =>
      errorIf (isWithin completedAt moment = false)
        "Некорректное время технического доказательства."

/-- The errors of one entry of a snapshot. -/
def entryErrors (completedAt : Timestamp) : Option SnapshotEntry → List String
  | none => ["Некорректное задание снимка."]
  | some entry =>
      if isId entry.taskId ∧ isId entry.attemptId then
        errorIf (entry.evidenceSource ∉ ["technical_passed_at", "check_run"])
            "Неизвестное техническое доказательство." ++
          errorIf (entry.checkRunId.any fun id => !isId id)
            "Некорректный идентификатор CheckRun." ++
          errorIf (entry.evidenceSource = "check_run" ∧ entry.checkRunId = none)
            "Историческому доказательству нужен CheckRun." ++
          timeErrors completedAt entry.passedAt
      else
        ["Нужны идентификаторы задания и зачётной попытки."]

variable (completion : ProgramCompletion)

/-- The entries that are objects. -/
def entriesOf : List SnapshotEntry :=
  ((completion.snapshot.bind Snapshot.tasks).getD []).filterMap id

/-- The tasks of the entries with identifiers. -/
def taskIdsOf : List Int :=
  ((entriesOf completion).filter fun entry =>
      isId entry.taskId && isId entry.attemptId).filterMap
    SnapshotEntry.taskId

/-- The errors of the entries of a snapshot. -/
def tasksErrors (entries : List (Option SnapshotEntry)) : List String :=
  entries.flatMap (entryErrors completion.completedAt) ++
    errorIf (¬ (taskIdsOf completion).Nodup)
      "Задания снимка должны быть уникальны."

/-- The error about the fingerprint of a snapshot without other errors. -/
def fingerprintErrors (fingerprint : List Int → String)
    (completion : ProgramCompletion) : List String :=
  errorIf
    (completion.compositionFingerprint ≠ fingerprint (taskIdsOf completion))
    "Fingerprint не соответствует составу снимка."

/-- The errors that `validate_completion_snapshot` raises. -/
def snapshotErrors (fingerprint : List Int → String)
    (completion : ProgramCompletion) : List String :=
  match completion.snapshot with
  | none => ["Неизвестный формат снимка."]
  | some snapshot =>
      if snapshot.schemaVersion ≠ some 1 then
        ["Неизвестный формат снимка."]
      else if snapshot.tasks = none ∨ snapshot.tasks = some [] then
        ["Снимок должен содержать непустую программу."]
      else if tasksErrors completion (snapshot.tasks.getD []) ≠ [] then
        tasksErrors completion (snapshot.tasks.getD [])
      else
        fingerprintErrors fingerprint completion

/-- The task and the attempt of an entry. -/
def SnapshotEntry.ids (entry : SnapshotEntry) : Pk × Pk :=
  ((entry.taskId.getD 0).toNat, (entry.attemptId.getD 0).toNat)

/-- The completion with the entries of its snapshot. -/
def ProgramCompletion.listed : Completion where
  pk := completion.pk
  completedAt := completion.completedAt
  tasks := (entriesOf completion).map SnapshotEntry.ids

/-- What the two evaluators over the ledger read. -/
def Sources.reads : Reads where
  journey := sources.diary.map fun diary => diary.journey.entryType
  completion := sources.completion.map ProgramCompletion.listed
  isValidSnapshot := fun _ =>
    sources.completion.all fun completion =>
      (snapshotErrors sources.fingerprint completion).isEmpty
  attempts := sources.attempts
  snapshot := sources.ledgerEvidence
  completionEvidence := fun listed =>
    { others := sources.write (.completion listed.pk
            ((sources.completion.map ProgramCompletion.source).getD "")
            ((sources.completion.map
              ProgramCompletion.compositionFingerprint).getD "")
            (listed.tasks.map Prod.fst)) }

/-! ## Technical successes -/

/-- `TechnicalEvidence`. -/
structure TechnicalEvidence where
  source : String
  passedAt : Option Timestamp := none
  checkRunId : Option Pk := none

/-- `is_completed`. -/
def TechnicalEvidence.isCompleted (evidence : TechnicalEvidence) : Bool :=
  decide (evidence.source ≠ "missing")

/-- `get_technical_evidence`, of an attempt with its annotations. -/
def getTechnicalEvidence (attempt : CreditAttempt) : TechnicalEvidence :=
  match attempt.technicalPassedAt with
  | some passedAt =>
      { source := "technical_passed_at", passedAt := some passedAt }
  | none =>
      match attempt.technicalCheck with
      | some (checkId, checkedAt) =>
          { source := "check_run"
            passedAt := some checkedAt
            checkRunId := some checkId }
      | none => { source := "missing" }

/-- The success that an entry of a snapshot records. -/
def recordedSuccess?
    (completionId : Pk) (entry : SnapshotEntry) : Option Success :=
  entry.passedAt.map fun moment =>
    { taskId := entry.ids.1
      attemptId := entry.ids.2
      passedAt := moment.instant
      checkRunId := none
      completionId := some completionId }

/-- The success that an attempt proves, if it has come. -/
def provenSuccess?
    (now : Timestamp) (attempt : CreditAttempt) : Option Success := do
  let evidence := getTechnicalEvidence attempt
  guard evidence.isCompleted
  let passedAt ← evidence.passedAt
  guard (passedAt ≤ now)
  return {
    taskId := attempt.taskId
    attemptId := attempt.pk
    passedAt
    checkRunId := evidence.checkRunId
    completionId := none }

/-- `successes[task_id] = candidate`, unless an earlier one is there. -/
def putSuccess
    (successes : List Success) (candidate : Success) : List Success :=
  if successes.any fun previous =>
      decide (previous.taskId = candidate.taskId ∧
        previous.passedAt ≤ candidate.passedAt) then
    successes
  else
    successes.filter (fun previous =>
        decide (previous.taskId ≠ candidate.taskId)) ++
      [candidate]

/-- The successes of the tasks, each at its first time. -/
def successesOf (now : Timestamp) : List Success :=
  (sources.creditAttempts.filterMap (provenSuccess? now)).foldl putSuccess
    (sources.completion.elim [] fun completion =>
      (entriesOf completion).filterMap (recordedSuccess? completion.pk))

/-- The successes in the order of their times and tasks. -/
def orderedSuccesses (successes : List Success) : List Success :=
  successes.insertionSort fun first second =>
    first.passedAt < second.passedAt ∨
      first.passedAt = second.passedAt ∧ first.taskId ≤ second.taskId

/-- The evaluation of the first successes. -/
def firstSuccesses
    (tiers : List AchievementTier) (now : Timestamp) : Option Evaluation := do
  let tier ← tiers.head?
  let required ← tier.parameters.taskCount
  let ordered := orderedSuccesses (successesOf sources now)
  if ordered.length < required then
    some { status := .notMet, reason := "insufficient_credit_successes" }
  else
    (ordered.take required).getLast?.map fun last =>
      eligible tier
        { others := sources.write (.successes (ordered.take required)) }
        [] last.passedAt

/-- `sandbox`. -/
def sandbox (sources : Sources) (userId : Pk) (tiers : List AchievementTier)
    (definition : AchievementDefinition)
    (now : Timestamp) : Option Evaluation :=
  if isSandboxProgram definition.evaluatorKey then
    SandboxAdvanced.sandbox sources.reads userId tiers definition
      sources.ledger now
  else
    match completionProblem? sources.reads userId now with
    | some problem => some problem
    | none => firstSuccesses sources tiers now

/-! ## The diary -/

/-- The evaluation that a rule is not met. -/
def notMet (reason : String) : Evaluation :=
  { status := .notMet, reason }

/-- `training`. -/
def training
    (tiers : List AchievementTier) (now : Timestamp) : Option Evaluation :=
  match sources.confirmations.getLast? with
  | none => some (notMet "no_active_confirmation")
  | some event =>
      if event.action ≠ "confirmed" then
        some (notMet "no_active_confirmation")
      else if event.actorIsStaff = false ∨ now < event.createdAt then
        some
          (unknown "untrusted_confirmation" ["trusted confirmation actor/time"])
      else
        tiers.head?.map fun tier =>
          eligible tier { others := sources.write (.confirmation event.id) }
            [] event.createdAt

variable (diary : Diary)

/-- `visit.stage.group`. -/
def groupOf? (visit : StageHistory) : Option StageGroup :=
  (TraineeDiary.stage? diary.stages visit.stageId).map TraineeStage.group

/-- The two visits are the transition to independent work. -/
def isIndependence (visits : StageHistory × StageHistory) : Bool :=
  decide (groupOf? diary visits.1 = some .optionalReview ∧
      groupOf? diary visits.2 = some .noReview)

/-- A member of the staff made the visit. -/
def isByStaff (users : List User) (visit : StageHistory) : Bool :=
  (visit.changedById.bind (TraineeDiary.user? users)).any User.isStaff

/-- `independent`. -/
def independent (tiers : List AchievementTier) : Option Evaluation :=
  match TraineeDiary.historyFor? diary.load sources.today with
  | none =>
      some (unknown "ambiguous_stage_history"
          ["continuous confirmed OPTIONAL_REVIEW → NO_REVIEW"])
  | some visits =>
      match (visits.zip visits.tail).find? (isIndependence diary) with
      | none => some (notMet "no_normal_confirmed_transition")
      | some (previous, current) =>
          if isByStaff sources.users current then
            tiers.head?.map fun tier =>
              eligible tier
                { others := sources.write
                      (.transition previous.id current.id current.changedById) }
                [] (sources.atDate current.startedAt)
          else
            some (unknown "transition_actor_missing"
                ["staff-confirmed transition"])

/-- The first of the highest tiers so far and one more. -/
def higher (best : Option AchievementTier)
    (tier : AchievementTier) : Option AchievementTier :=
  if best.any fun other => decide (tier.rank ≤ other.rank) then best
  else some tier

/-- `max(tiers, key=lambda t: t.rank)`. -/
def highest? (tiers : List AchievementTier) : Option AchievementTier :=
  tiers.foldl higher none

/-- The tier is for the day of the probation. -/
def isForDay (day : Nat) (tier : AchievementTier) : Bool :=
  tier.parameters.minDay.any (fun least => decide (least ≤ day)) &&
    tier.parameters.maxDay.all fun most => decide (day ≤ most)

/-- `probation`. -/
def probation (sources : Sources) (diary : Diary)
    (tiers : List AchievementTier) : Option Evaluation := do
  let stage ← TraineeDiary.stage? diary.stages diary.journey.currentStageId
  match TraineeDiary.evaluateProbation diary.load stage
      (diary.journey.completedById.bind
        (TraineeDiary.user? sources.users)) sources.today with
  | .notMet reason => some (notMet reason)
  | .unknown reason =>
      some (unknown reason ["valid actual dates", "staff-confirmed SUCCESS",
            "consistent DONE visit"])
  | .eligible day =>
      let completed ← diary.journey.completedAt
      let tier ← highest? (tiers.filter (isForDay day))
      some (eligible tier
          { others := sources.write (.probation diary.journey.id
                  diary.journey.probationStartDate completed day
                  diary.journey.completedById) }
          [] (sources.atDate completed))

/-! ## Weekly metrics -/

/-- A week that reaches a tier, with its value in tenths. -/
structure QualifyingWeek where
  tier : AchievementTier
  number : Int
  metric : TraineeDiary.WeeklyMetric
  visit : StageHistory
  start : Day
  deriving Repr, DecidableEq

/-- What one metric shows. -/
inductive WeekReading where
  | ambiguous
  | passedOver
  | qualifies (week : QualifyingWeek)
  deriving Repr, DecidableEq

variable (isQuality : Bool)

/-- The group of the stages that the family is about. -/
def weeklyGroup : StageGroup :=
  if isQuality then .withReview else .noReview

/-- The value of the metric that the family is about, in tenths. -/
def valueOf (metric : TraineeDiary.WeeklyMetric) : Option Int :=
  if isQuality then
    metric.qualityPercent.map fun percent => 10 * (percent : Int)
  else
    metric.speedHours

/-- The value as it is written in the evidence. -/
def valueText (number : Int) : String :=
  if isQuality then toString (number / 10)
  else toString (number / 10) ++ "." ++ toString (number % 10)

/-- The value reaches the automatic tier.  The minimums are whole numbers. -/
def isReached (number : Int) (tier : AchievementTier) : Bool :=
  decide (tier.parameters.automatic = some true) &&
    (tier.parameters.minimum.bind String.toNat?).any fun minimum =>
      if tier.parameters.strict = some true then
        decide (10 * (minimum : Int) < number)
      else
        decide (10 * (minimum : Int) ≤ number)

/-- The visit covers the week. -/
def covers (start : Day) (visit : StageHistory) : Bool :=
  decide (visit.startedAt ≤ start) &&
    visit.endedAt.all fun ended => decide (start + 7 ≤ ended)

variable (tiers : List AchievementTier)

/-- What the value of a week shows. -/
def readValue (metric : TraineeDiary.WeeklyMetric) (visit : StageHistory)
    (start : Day) : WeekReading :=
  match valueOf isQuality metric with
  | none => .ambiguous
  | some number =>
      if number < 0 ∨ isQuality = true ∧ 1000 < number then
        .ambiguous
      else
        match highest? (tiers.filter (isReached number)) with
        | none => .passedOver
        | some tier => .qualifies { tier, number, metric, visit, start }

/-- What one metric shows under the visits. -/
def readWeek (visits : List StageHistory)
    (metric : TraineeDiary.WeeklyMetric) : WeekReading :=
  match metric.weekStartDate with
  | none => .ambiguous
  | some start =>
      if sources.today < start + 7 then
        .ambiguous
      else
        match visits.filter (covers start) with
        | [visit] =>
            if groupOf? diary visit = some (weeklyGroup isQuality) then
              readValue isQuality tiers metric visit start
            else
              .passedOver
        | _ => .ambiguous

/-- The better of the best week so far and one more. -/
def betterWeek
    (best : Option QualifyingWeek) : WeekReading → Option QualifyingWeek
  | .qualifies week =>
      if best.any fun other =>
          decide (week.tier.rank < other.tier.rank ∨
              week.tier.rank = other.tier.rank ∧
                week.number ≤ other.number) then
        best
      else
        some week
  | _ => best

/-- The metrics in the order of their weeks. -/
def orderedMetrics : List TraineeDiary.WeeklyMetric :=
  diary.metrics.insertionSort fun first second =>
    first.weekNumber < second.weekNumber ∨
      first.weekNumber = second.weekNumber ∧ first.id ≤ second.id

/-- The evidence of a week. -/
def weekEvidence (week : QualifyingWeek) : Evidence :=
  { metricId := some week.metric.id
    qualityPercent :=
      if isQuality then some (valueText true week.number) else none
    speedHours :=
      if isQuality then none else some (valueText false week.number)
    periodStart := some (week.start : Int)
    others := sources.write
        (.week week.metric.weekNumber (week.start + 7) week.visit.id
          week.visit.stageId (weeklyGroup isQuality)) }

/-- The evaluation of what the metrics show. -/
def weeklyResult (readings : List WeekReading) : Evaluation :=
  match readings.foldl betterWeek none with
  | some week =>
      eligible week.tier (weekEvidence sources isQuality week) []
        (sources.atDate (week.start + 7))
  | none =>
      if .ambiguous ∈ readings then
        unknown "missing_or_ambiguous_week"
          ["dated finished seven-day period", "single applicable stage visit",
            if isQuality then "quality_percent" else "speed_hours"]
      else
        notMet "no_qualifying_week_in_required_stage"

/-- `weekly`. -/
def weekly (definition : AchievementDefinition) : Evaluation :=
  let isQuality := decide (definition.evaluatorKey = "review_quality")
  match TraineeDiary.historyFor? diary.load sources.today with
  | none =>
      unknown "ambiguous_stage_history"
        ["continuous stage visits consistent with journey"]
  | some visits =>
      weeklyResult sources isQuality ((orderedMetrics diary).map
          (readWeek sources diary isQuality tiers visits))

/-! ## The registry -/

/-- The keys of `REGISTRY` whose function is `sandbox`. -/
def sandboxKeys : List String :=
  ["sandbox_program", "sandbox_first_five_clean_answers",
    "sandbox_first_success", "sandbox_five_successes"]

/-- The keys of `REGISTRY` whose function is `weekly`. -/
def weeklyKeys : List String :=
  ["review_quality", "independent_speed"]

/-- The keys of `REGISTRY`. -/
def registry : List String :=
  sandboxKeys ++ weeklyKeys ++
    ["training_program", "probation_new_hire", "independent_engineer"]

/-- `PENDING_EVIDENCE`. -/
def pendingEvidence (evaluatorKey : String) : List String :=
  if evaluatorKey = "review_quality_streak" then
    ["three consecutive finalized complete weeks",
      "single WITH_REVIEW visit", "measurement coverage"]
  else if evaluatorKey = "clean_week" then
    ["finalized complete work week WITH_REVIEW", "100% quality",
      "verified coverage of workdays and assessments"]
  else
    ["complete source history"]

/-- The function of `REGISTRY` that reads the diary. -/
def evaluateDiary (definition : AchievementDefinition)
    (now : Timestamp) : Option Evaluation :=
  if definition.evaluatorKey ∈ weeklyKeys then
    some (weekly sources diary tiers definition)
  else if definition.evaluatorKey = "training_program" then
    training sources tiers now
  else if definition.evaluatorKey = "probation_new_hire" then
    probation sources diary tiers
  else
    independent sources diary tiers

/-- The function of `REGISTRY`, under the checked tiers. -/
def evaluateChecked (userId : Pk) (tiers : List AchievementTier)
    (definition : AchievementDefinition)
    (now : Timestamp) : Option Evaluation :=
  if definition.evaluatorKey ∉ registry then
    some (unknown "source_not_ready" (pendingEvidence definition.evaluatorKey))
  else if definition.evaluatorKey ∈ sandboxKeys then
    sandbox sources userId tiers definition now
  else
    match sources.diary with
    | none =>
        some (unknown "adaptation_context_missing"
            ["adaptation and stage history"])
    | some diary => evaluateDiary sources diary tiers definition now

/-- `evaluate`. -/
def evaluate (catalog : Achievements.Catalog) (sources : Sources) (userId : Pk)
    (definition : AchievementDefinition)
    (now : Timestamp) : Option Evaluation :=
  let tiers := tiersOf catalog definition
  match refused? sources.reads.journey definition tiers with
  | some refusal => some refusal
  | none => evaluateChecked sources userId tiers definition now

end TicketSandbox.Achievements.Evaluators
