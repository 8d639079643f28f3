import TicketSandbox.Library.Raises
import TicketSandbox.Sandbox.Models

namespace TicketSandbox.Achievements

/-!
# Operational models of the achievements

The catalog of definitions and tiers, the entitlements of the users with their
event log and operation receipts, and the durable source events.  The columns
that no modelled function reads or writes are left out.
-/

open Raises
open Sandbox (Pk Timestamp Text)

/-- Calendar days, counted from a fixed one. -/
abbrev Date := Int

/-- Hexadecimal SHA-256 values. -/
abbrev Digest := Nat

/-- `Rarity`, in rising order of rank. -/
inductive Rarity where
  | bronze
  | silver
  | gold
  | platinum

/-- `AchievementDefinition.kind`. -/
inductive Kind where
  | tiered
  | fixed
  deriving Repr, DecidableEq

/-- `AchievementDefinition.applicability`. -/
inductive Applicability where
  | both
  | newHire
  deriving Repr, DecidableEq

/-- `AchievementDefinition`. -/
structure AchievementDefinition where
  pk : Pk
  code : String
  kind : Kind
  active : Bool
  applicability : Applicability
  evaluatorKey : String
  ruleVersion : Nat
  artKey : String
  deriving Repr, DecidableEq

/-- The keys that the `parameters` of a tier may have, absent ones as none. -/
structure Parameters where
  automatic : Option Bool := none
  maxStudyDays : Option Nat := none
  scoreGt : Option Nat := none
  scoreEq : Option Nat := none
  maxResets : Option Nat := none
  maxRevisions : Option Nat := none
  answersApproved : Option Bool := none
  firstCheck : Option Bool := none
  firstSubmission : Option Bool := none
  minimum : Option String := none
  strict : Option Bool := none
  minDay : Option Nat := none
  maxDay : Option Nat := none
  taskCount : Option Nat := none
  deriving Repr, DecidableEq

/-- `AchievementTier`. -/
structure AchievementTier where
  pk : Pk
  definitionId : Pk
  code : String
  rank : Nat
  rarity : String
  parameters : Parameters
  ruleVersion : Nat
  deriving Repr, DecidableEq

/-- `UserAchievement`. -/
structure UserAchievement where
  pk : Pk
  userId : Pk
  definitionId : Pk
  activeTier : Option AchievementTier
  firstGrantedAt : Option Timestamp
  lastUpgradedAt : Option Timestamp
  lastChangedAt : Option Timestamp
  revision : Nat
  autoGrantBlocked : Bool
  evidenceDisputed : Bool

/-- `AchievementEvent.Action`. -/
inductive EventAction where
  | grant
  | upgrade
  | revoke
  | evidenceDisputed
  deriving Repr, DecidableEq

/--
The evidence of an event: the keys that the services read or write, and the
rest of the JSON object as text.
-/
structure Evidence where
  metricId : Option Pk := none
  qualityPercent : Option String := none
  speedHours : Option String := none
  periodStart : Option Date := none
  policy : Option String := none
  revokedEventId : Option Pk := none
  disputedEventId : Option Pk := none
  others : String := ""
  deriving Repr, DecidableEq

/-- The `source_id` of a dispute, a number or a text. -/
inductive SourceId where
  | event (pk : Pk)
  | text (text : Text)
  deriving Repr, DecidableEq

/-- `str(event.pk)`. -/
def eventRef (pk : Pk) : Text :=
  (toString pk).toList

/-- `str(source_id)`. -/
def SourceId.ref : SourceId → Text
  | .event pk => eventRef pk
  | .text given => given

/-- `AchievementEvent`. -/
structure AchievementEvent where
  pk : Pk
  entitlementId : Pk
  action : EventAction
  fromTier : Option AchievementTier
  toTier : Option AchievementTier
  actorId : Option Pk
  occurredAt : Timestamp
  recordedAt : Timestamp
  sourceType : String
  sourceRef : Text
  ruleVersion : Nat
  evidence : Evidence
  evidenceDigest : Digest
  reason : Text
  idempotencyKey : Digest
  revokedEvent : Option Pk

/-- The outcomes of `grant` and `revoke`. -/
inductive Outcome where
  | grant
  | upgrade
  | revoke
  | noOp
  | suppressed
  | duplicate
  deriving Repr, DecidableEq

/-- `AchievementOperation`. -/
structure AchievementOperation where
  key : Digest
  requestDigest : Digest
  entitlementId : Pk
  eventId : Option Pk
  outcome : Outcome
  recordedAt : Timestamp
  deriving Repr, DecidableEq

/-- `AchievementNotification`, as `enqueue` creates it. -/
structure AchievementNotification where
  eventId : Pk
  userId : Pk
  readAt : Option Timestamp
  claimToken : Option Nat
  claimExpiresAt : Option Timestamp
  deriving Repr, DecidableEq

/-- `Evaluation.status`. -/
inductive EvaluationStatus where
  | eligible
  | notMet
  | unknown
  | notApplicable
  deriving Repr, DecidableEq

/-- One entry of `Evaluation.context["levels"]`. -/
structure Level where
  code : String
  status : EvaluationStatus
  reasons : List String
  deriving Repr, DecidableEq

/-- `Evaluation`; of the context only the levels are read. -/
structure Evaluation where
  status : EvaluationStatus
  tierCode : Option String := none
  reason : String := ""
  required : List String := []
  evidence : Evidence := {}
  levels : List Level := []
  occurredAt : Option Timestamp := none
  ruleVersion : Nat := 1
  deriving Repr, DecidableEq

/-- The keys of `PROVIDERS`, and any other text in the column. -/
inductive Provider where
  | roadmapConfirmation
  | sandboxCompletion
  | sandboxTechnical
  | sandboxReview
  | weeklyMetric
  | stageTransition
  | probationCompletion
  | other (name : String)
  deriving Repr, DecidableEq

/-- `AchievementSourceEvent.Status`. -/
inductive SourceStatus where
  | pending
  | processed
  | error
  deriving Repr, DecidableEq

/-- The keys of `context` and `payload` that the services read. -/
structure Payload where
  journeyId : Option Pk := none
  action : Option String := none
  metricId : Option Pk := none
  others : String := ""
  deriving Repr, DecidableEq

/-- One element of the result that processing a source event saves. -/
inductive SourceResult where
  | notice (status reason : String)
  | evaluated (definition : String) (evaluation : Evaluation)
      (granted : Option (Outcome × Option Pk))

/-- `AchievementSourceEvent`. -/
structure AchievementSourceEvent where
  pk : Pk
  provider : Provider
  externalId : String
  schemaVersion : Nat
  userId : Pk
  payload : Payload
  createdAt : Timestamp
  availableAt : Option Timestamp
  status : SourceStatus
  attempts : Nat
  error : String
  processedAt : Option Timestamp
  result : List SourceResult

/-- `WeeklyMetric`, with its values as text. -/
structure WeeklyMetric where
  pk : Pk
  userId : Pk
  qualityPercent : Option String
  speedHours : Option String
  weekStartDate : Option Date

/-- What drifted since a weekly proof, from `current_metric_problem`. -/
structure MetricProblem where
  metricId : Pk
  missing : Bool
  value : Option String
  periodStart : Option Date
  deriving Repr, DecidableEq

/-- The values that the services hash. -/
inductive Digested where
  | operation (userId definitionId : Pk) (action : String) (operationId : Text)
  | grantRequest (tier : Pk) (evidence : Evidence) (sourceType : String)
      (sourceRef : Text) (reason : Text) (actor : Option Pk) (ruleVersion : Nat)
  | revokeRequest (actor : Pk) (reason : Text)
  | dispute (source : SourceId) (entitlement : Pk)
  | evidence (evidence : Evidence)
  | report (evaluation : Evaluation)
  | problem (problem : MetricProblem)
  deriving Repr, DecidableEq

/-- Who asks for a manual action. -/
structure Actor where
  pk : Pk
  isAuthenticated : Bool
  isStaff : Bool

/-- The instant that a caller gives as the date of its evidence. -/
inductive OccurredAt where
  | missing
  | naive
  | aware (instant : Timestamp)

/-- What the services raise. -/
inductive Failure where
  | permissionDenied
  | validation (message : String)
  | grantConflict (message : String)
  | doesNotExist (model : String)
  | integrity
  | missingKey (key : String)
  | noProof
  deriving Repr, DecidableEq

/-- The catalog: definitions and tiers. -/
structure Catalog where
  definitions : List AchievementDefinition
  tiers : List AchievementTier

/--
The tables of the application.

Each table keeps its rows in the order of their primary keys, and `serial` is
above every primary key handed out so far.  `hasUser` and `digest` stand for
the accounts and for the hash of a serialised value.
-/
structure Db where
  catalog : Catalog
  hasUser : Pk → Bool
  digest : Digested → Digest
  boundary : Option Timestamp
  serial : Pk
  achievements : List UserAchievement
  events : List AchievementEvent
  operations : List AchievementOperation
  notifications : List AchievementNotification
  sources : List AchievementSourceEvent

namespace Db

/-- Nothing was granted and nothing happened yet. -/
def empty (catalog : Catalog) (hasUser : Pk → Bool) (digest : Digested → Digest)
    (boundary : Option Timestamp) : Db where
  catalog := catalog
  hasUser := hasUser
  digest := digest
  boundary := boundary
  serial := 1
  achievements := []
  events := []
  operations := []
  notifications := []
  sources := []

/-- The definition with the primary key. -/
def definition? (db : Db) (pk : Pk) : Option AchievementDefinition :=
  db.catalog.definitions.find? fun row => decide (row.pk = pk)

/-- The tier of the definition with the code. -/
def tier?
    (db : Db) (definitionId : Pk) (code : String) : Option AchievementTier :=
  db.catalog.tiers.find? fun row =>
    decide (row.definitionId = definitionId ∧ row.code = code)

/-- The entitlement of the user for the definition. -/
def achievement?
    (db : Db) (userId definitionId : Pk) : Option UserAchievement :=
  db.achievements.find? fun row =>
    decide (row.userId = userId ∧ row.definitionId = definitionId)

/-- The events of one entitlement, in the order of their primary keys. -/
def eventsOf (db : Db) (entitlementId : Pk) : List AchievementEvent :=
  db.events.filter fun event => decide (event.entitlementId = entitlementId)

/-- The receipt under the key. -/
def operation? (db : Db) (key : Digest) : Option AchievementOperation :=
  db.operations.find? fun receipt => decide (receipt.key = key)

/-- The source event with the primary key. -/
def source? (db : Db) (pk : Pk) : Option AchievementSourceEvent :=
  db.sources.find? fun event => decide (event.pk = pk)

end Db

end TicketSandbox.Achievements

namespace TicketSandbox.Achievements.Catalog

/-!
# Rule schemas

`services/catalog.py`: the families that the server owns, and the checks that
a stored definition or tier still matches its family.
-/

open Raises

/-- `ART_KEYS`. -/
def artKeys : List String :=
  ["generic", "training", "sandbox", "quality", "speed", "probation",
    "milestone", "independent"]

/-- `RARITIES`. -/
def rarities : List String :=
  ["bronze", "silver", "gold", "platinum"]

/-- One entry of `CATALOG`, without its texts. -/
structure Family where
  code : String
  kind : Kind
  applicability : Applicability
  evaluatorKey : String
  ruleVersion : Nat
  artKey : String
  tiers : List (String × Parameters)

/-- `family`. -/
def family
    (code category : String) (tiers : List (String × Parameters)) (kind : Kind)
    (applicability : Applicability) : Family where
  code := code
  kind := kind
  applicability := applicability
  evaluatorKey := code
  ruleVersion := 1
  artKey := if category ∈ artKeys then category else "generic"
  tiers := tiers

/-- `CATALOG`. -/
def catalog : List Family :=
  [family "training_program" "training" [("bronze", { automatic := some true }),
        ("silver",
          { automatic := some false
            maxStudyDays := some 11
            scoreGt := some 90 }),
        ("gold",
          { automatic := some false
            maxStudyDays := some 6
            scoreGt := some 95 }),
        ("platinum",
          { automatic := some false
            maxStudyDays := some 6
            scoreEq := some 100 })]
      .tiered .newHire,
    family "sandbox_program" "sandbox" [("bronze", { automatic := some true }),
        ("silver", { automatic := some true, maxResets := some 2 }),
        ("gold",
          { automatic := some true
            maxResets := some 2
            maxRevisions := some 2
            answersApproved := some true }),
        ("platinum",
          { automatic := some false
            maxResets := some 0
            firstCheck := some true
            firstSubmission := some true })]
      .tiered .newHire,
    family "review_quality" "quality" [("bronze",
          { automatic := some true
            minimum := some "80"
            strict := some false }),
        ("silver",
          { automatic := some true
            minimum := some "90"
            strict := some false }),
        ("gold",
          { automatic := some true
            minimum := some "95"
            strict := some true })]
      .tiered .both,
    family "independent_speed" "speed" [("bronze",
          { automatic := some true
            minimum := some "5"
            strict := some false }),
        ("silver",
          { automatic := some true
            minimum := some "7"
            strict := some false }),
        ("gold",
          { automatic := some true
            minimum := some "9"
            strict := some false }),
        ("platinum",
          { automatic := some true
            minimum := some "10"
            strict := some true })]
      .tiered .both,
    family "probation_new_hire" "probation"
      [("bronze", { automatic := some true, minDay := some 61 }), ("silver",
          { automatic := some true
            minDay := some 46
            maxDay := some 60 }),
        ("gold",
          { automatic := some true
            minDay := some 31
            maxDay := some 45 }),
        ("platinum",
          { automatic := some true
            minDay := some 1
            maxDay := some 30 })]
      .tiered .newHire,
    family "sandbox_first_success" "sandbox"
      [("bronze", { automatic := some true, taskCount := some 1 })]
      .fixed .newHire,
    family "sandbox_five_successes" "sandbox"
      [("silver", { automatic := some true, taskCount := some 5 })]
      .fixed .newHire,
    family "sandbox_first_five_clean_answers" "sandbox"
      [("gold", { automatic := some true })]
      .fixed .newHire,
    family "review_quality_streak" "quality"
      [("gold", { automatic := some false })]
      .fixed .both,
    family "independent_engineer" "independent"
      [("silver", { automatic := some true })]
      .fixed .both,
    family "clean_week" "quality" [("platinum", { automatic := some false })]
      .fixed .both]

/-- `SCHEMAS`, by evaluator key. -/
def schema? (evaluatorKey : String) : Option Family :=
  catalog.find? fun row => decide (row.evaluatorKey = evaluatorKey)

/-- The errors of `validate_definition` and `validate_tier`. -/
def unknownEvaluator : Failure :=
  .validation "Неизвестный evaluator или неподдерживаемая версия правила."

/-- The type or applicability differs from the schema. -/
def wrongKind : Failure :=
  .validation "Тип и применимость не соответствуют схеме evaluator."

/-- The art key is not among `ART_KEYS`. -/
def wrongArtKey : Failure :=
  .validation "Недопустимый ключ оформления."

/-- The tier differs from the schema. -/
def wrongTier : Failure :=
  .validation "Уровень не соответствует проверенной серверной схеме."

/-- `validate_definition`, which leaves the schema to its callers. -/
def validateDefinition
    (definition : AchievementDefinition) : Except Failure Family := do
  let schema ← required unknownEvaluator (schema? definition.evaluatorKey)
  ensure (definition.ruleVersion = schema.ruleVersion) unknownEvaluator
  ensure (definition.kind = schema.kind ∧
      definition.applicability = schema.applicability)
    wrongKind
  ensure (definition.artKey ∈ artKeys) wrongArtKey
  return schema

/-- `validate_tier`. -/
def validateTier (definition : AchievementDefinition)
    (tier : AchievementTier) : Except Failure Unit := do
  let schema ← validateDefinition definition
  let (code, parameters) ← required wrongTier
    (schema.tiers.find? fun row => decide (row.1 = tier.code))
  ensure (tier.parameters = parameters ∧ tier.rarity = code ∧
      tier.rank = rarities.idxOf code + 1 ∧
      tier.ruleVersion = definition.ruleVersion)
    wrongTier

/-- The definition that `seed_catalog` creates for a family. -/
def seedDefinition (pk : Sandbox.Pk) (row : Family) :
    AchievementDefinition where
  pk := pk
  code := row.code
  kind := row.kind
  active := true
  applicability := row.applicability
  evaluatorKey := row.evaluatorKey
  ruleVersion := row.ruleVersion
  artKey := row.artKey

/-- A tier that `seed_catalog` creates for a family. -/
def seedTier (pk definitionId : Sandbox.Pk) (row : Family)
    (tier : String × Parameters) : AchievementTier where
  pk := pk
  definitionId := definitionId
  code := tier.1
  rank := rarities.idxOf tier.1 + 1
  rarity := tier.1
  parameters := tier.2
  ruleVersion := row.ruleVersion

/-- The definitions and tiers of a list of families, numbered on. -/
def seeded (definitionPk tierPk : Sandbox.Pk) :
    List Family → Achievements.Catalog
  | [] => { definitions := [], tiers := [] }
  | row :: rest =>
      let others := seeded (definitionPk + 1) (tierPk + row.tiers.length) rest
      { definitions := seedDefinition definitionPk row :: others.definitions
        tiers := (row.tiers.mapIdx fun index tier =>
            seedTier (tierPk + index) definitionPk row tier) ++
          others.tiers }

/-- `seed_catalog` on empty tables. -/
def seedCatalog : Achievements.Catalog :=
  seeded 1 1 catalog

/-- The tiers of the seed pass their own validation. -/
theorem seedCatalog_valid :
    ∀ definition ∈ seedCatalog.definitions,
    ∀ tier ∈ seedCatalog.tiers, tier.definitionId = definition.pk →
      validateTier definition tier = .ok () := by
  decide

end TicketSandbox.Achievements.Catalog
