import TicketSandbox.Achievements.Grants

namespace TicketSandbox.Achievements.Reconciliation

/-!
# Reconciliation

`services/reconciliation.py`.  What the evaluators find in the tables of the
other applications is an argument: they only read.
-/

open Raises
open Sandbox (Pk Timestamp Text)
open Grants

/--
What the other applications answer while one call runs: the weekly metrics,
the adaptations of the users, the local midnight of a date, and `evaluate`.
-/
structure World where
  metrics : List WeeklyMetric
  hasJourney : Pk → Pk → Bool
  atDate : Date → Timestamp
  evaluate : Pk → AchievementDefinition → Evaluation

/-- The families whose level is checked again. -/
def isSandboxProgram (key : String) : Bool :=
  decide (key ∈ ["sandbox_program", "sandbox_first_five_clean_answers"])

/-- `evaluation.context["levels"][code]["status"]`. -/
def levelStatus?
    (evaluation : Evaluation) (code : String) : Option EvaluationStatus :=
  (evaluation.levels.find? fun level => decide (level.code = code)).map
    Level.status

variable (db : Db)

/-- `sandbox_problem`. -/
def sandboxProblem (userId : Pk) (definition : AchievementDefinition)
    (evaluation : Evaluation) : Bool :=
  isSandboxProgram definition.evaluatorKey &&
    (db.achievement? userId definition.pk).any fun entitlement =>
      entitlement.activeTier.any fun tier =>
        (proof? db entitlement.pk).any fun proof =>
          let code :=
            if definition.evaluatorKey = "sandbox_first_five_clean_answers" then
              "clean_answers"
            else
              tier.code
          decide (proof.sourceType ≠ "manual") &&
            decide (proof.evidence.policy = some "sandbox-ledger-v1") &&
            decide (levelStatus? evaluation code ≠ some .eligible)

/-- What a report says would be done, or was done. -/
inductive ReportAction where
  | predicted (outcome : Outcome)
  | applied (outcome : Outcome) (eventId : Option Pk)

/-- The report of `_run`. -/
structure Report where
  userId : Pk
  definition : String
  evaluation : Evaluation
  currentTier : Option String
  suppressed : Bool
  source : String
  missingEvidence : List String
  unknownReasons : List String
  evidenceDisputed : Bool
  action : Option ReportAction
  applied : Bool

/-- `sorted(set(...))`. -/
def sortedSet (texts : List String) : List String :=
  texts.dedup.mergeSort fun first second => decide (first ≤ second)

/-- The reasons of the levels that nothing is known of. -/
def unknownReasons (evaluation : Evaluation) : List String :=
  sortedSet ((evaluation.levels.filter fun level =>
      decide (level.status = .unknown)).flatMap Level.reasons)

/-- What a dry run predicts for the entitlement and the evaluated tier. -/
def predict
    (entitlement : Option UserAchievement) (tier : AchievementTier) : Outcome :=
  match entitlement with
  | none => .grant
  | some entitlement =>
      if entitlement.autoGrantBlocked then .suppressed
      else if isNoOp entitlement tier then .noOp
      else grantOutcome entitlement

/-- Call `flag_disputed` only under a condition. -/
def flagIf (condition : Prop) [Decidable condition] (db : Db)
    (request : DisputeRequest) (now : Timestamp) : Except Failure Db :=
  if condition then flagDisputed db request now else .ok db

variable (world : World) (userId : Pk) (definition : AchievementDefinition)

/-- Dispute what the evaluation or the metrics contradict. -/
def disputeProblems
    (evaluation : Evaluation) (entitlement : Option UserAchievement)
    (now : Timestamp) : Except Failure Db := do
  let flagged ← flagIf (sandboxProblem db userId definition evaluation) db
    { userId := userId
      definitionId := some definition.pk
      source := .text ("sandbox-reconciliation:" ++
          toString (db.digest (.report evaluation))).toList
      sandboxInvalid := true }
    now
  match currentMetricProblem flagged world.metrics entitlement with
  | none => .ok flagged
  | some problem =>
      flagDisputed flagged
        { userId := userId
          metricId := some problem.metricId
          definitionId := some definition.pk
          source := .text ("reconciliation:" ++
              toString (db.digest (.problem problem))).toList }
        now

/-- The grant that an eligible evaluation asks for. -/
def reconciledGrant
    (evaluation : Evaluation) (version : Nat) : GrantRequest where
  userId := userId
  definitionId := definition.pk
  tierCode := evaluation.tierCode.getD ""
  evidence := evaluation.evidence
  occurredAt := evaluation.occurredAt.elim .missing .aware
  sourceType := "reconciliation"
  sourceRef := (toString (db.digest (.report evaluation))).toList
  ruleVersion := version
  operationId :=
    ("reconcile:" ++ toString (db.digest (.report evaluation))).toList

/-- The report of `_run`, up to its action. -/
def reportOf (evaluation : Evaluation) (apply : Bool) : Report :=
  let entitlement := db.achievement? userId definition.pk
  { userId := userId
    definition := definition.code
    evaluation := evaluation
    currentTier :=
      (entitlement.bind UserAchievement.activeTier).map AchievementTier.code
    suppressed := entitlement.any UserAchievement.autoGrantBlocked
    source :=
      if isSandboxProgram definition.evaluatorKey then "sandbox-ledger-v1"
      else definition.evaluatorKey
    missingEvidence :=
      sortedSet (evaluation.required ++ unknownReasons evaluation)
    unknownReasons := unknownReasons evaluation
    evidenceDisputed := sandboxProblem db userId definition evaluation ||
        (currentMetricProblem db world.metrics entitlement).isSome ||
        entitlement.any UserAchievement.evidenceDisputed
    action := none
    applied := apply }

/-- The part of `_run` after its disputes: grant or predict. -/
def conclude
    (db flagged : Db) (userId : Pk) (definition : AchievementDefinition)
    (evaluation : Evaluation) (apply : Bool) (version : Nat)
    (now : Timestamp) : Except Failure (Db × Option ReportAction) :=
  if evaluation.status = .eligible then do
    let tier ← required (.doesNotExist "AchievementTier")
      (db.tier? definition.pk (evaluation.tierCode.getD ""))
    if apply then do
      let granted ← grant flagged
        (reconciledGrant db userId definition evaluation version) now
      return (granted.1, some (.applied granted.2.outcome granted.2.eventId))
    else
      return (flagged, some
          (.predicted (predict (db.achievement? userId definition.pk) tier)))
  else
    .ok (flagged, none)

/-- The disputes of `_run`, which a dry run leaves out. -/
def disputeIfApplied (evaluation : Evaluation) (apply : Bool)
    (now : Timestamp) : Except Failure Db :=
  if apply then
    disputeProblems db world userId definition evaluation
      (db.achievement? userId definition.pk) now
  else
    .ok db

/-- `_run`. -/
def run (apply : Bool) (version : Nat)
    (now : Timestamp) : Except Failure (Db × Report) := do
  ensure (definition.ruleVersion = version)
    (.validation "Версия правила изменилась.")
  let evaluation := world.evaluate userId definition
  let flagged ← disputeIfApplied db world userId definition evaluation apply now
  let concluded ← conclude db flagged userId definition evaluation apply
    version now
  return (concluded.1,
    { reportOf db world userId definition evaluation apply with
      action := concluded.2 })

/-- `reconcile`. -/
def reconcile (apply : Bool) (expectedRuleVersion : Nat)
    (now : Timestamp) : Except Failure (Db × Report) := do
  ensure (definition.ruleVersion = expectedRuleVersion)
    (.validation "Версия правила изменилась.")
  if apply then
    lockUser db userId
    let current ← required (.doesNotExist "AchievementDefinition")
      (db.definition? definition.pk)
    run db world userId current true expectedRuleVersion now
  else
    run db world userId definition false expectedRuleVersion now

end TicketSandbox.Achievements.Reconciliation
