import TicketSandbox.Achievements.Catalog
import TicketSandbox.Library.Rows

namespace TicketSandbox.Achievements.Grants

/-!
# Granting, revoking and disputing

`services/grants.py`.  Every function runs in one transaction that holds the
lock of the user, so the calls for one user never overlap, and a call that
raises is rolled back.
-/

open Raises
open Sandbox (Pk Timestamp Text strip)

/-- `staff_reason`. -/
def staffReason
    (actor : Option Actor) (reason : Text) : Except Failure Actor := do
  let actor ← required .permissionDenied actor
  ensure (actor.isAuthenticated ∧ actor.isStaff) .permissionDenied
  ensure (strip reason ≠ [])
    (.validation "Обязательна причина ручного действия.")
  return actor

variable (db : Db)

/-- `lock_user`. -/
def lockUser (userId : Pk) : Except Failure Unit :=
  ensure (db.hasUser userId) (.doesNotExist "User")

/-- `operation_key`. -/
def operationKey (userId definitionId : Pk) (action : String)
    (operationId : Text) : Except Failure Digest := do
  ensure (strip operationId ≠ [] ∧ operationId.length ≤ 150)
    (.validation "Нужен operation_id до 150 символов.")
  return db.digest (.operation userId definitionId action operationId)

/-- `repeated`: the receipt of the same request, if there is one. -/
def repeated (key requestDigest : Digest) :
    Except Failure (Option AchievementOperation) :=
  match db.operation? key with
  | none => .ok none
  | some receipt =>
      if receipt.requestDigest = requestDigest then
        .ok (some receipt)
      else
        .error
          (.grantConflict "operation_id уже использован с другими параметрами.")

/-- What `grant` and `revoke` return: entitlement, outcome and event. -/
structure Reply where
  entitlementId : Pk
  outcome : Outcome
  eventId : Option Pk

/-- `remember`. -/
def remember (key requestDigest : Digest) (entitlementId : Pk)
    (outcome : Outcome) (eventId : Option Pk) (now : Timestamp) : Db × Reply :=
  ({ db with
      operations :=
        db.operations ++
          [{ key := key
             requestDigest := requestDigest
             entitlementId := entitlementId
             eventId := eventId
             outcome := outcome
             recordedAt := now }] },
    { entitlementId := entitlementId
      outcome := outcome
      eventId := eventId })

/-- The event gives or raises a tier. -/
def isProof (event : AchievementEvent) : Bool :=
  decide (event.action = .grant ∨ event.action = .upgrade)

/-- The order of `Meta.ordering`: by `recorded_at`, then by primary key. -/
def isAtMost (first second : AchievementEvent) : Bool :=
  decide (first.recordedAt < second.recordedAt ∨
      first.recordedAt = second.recordedAt ∧ first.pk ≤ second.pk)

/-- The last of the events in that order. -/
def last? (events : List AchievementEvent) : Option AchievementEvent :=
  events.foldl (fun latest event =>
      match latest with
      | none => some event
      | some other => if isAtMost other event then some event else some other)
    none

/-- `events.filter(action__in=["grant", "upgrade"]).last()`. -/
def proof? (entitlementId : Pk) : Option AchievementEvent :=
  last? ((db.eventsOf entitlementId).filter isProof)

/-- The family of the definition of an entitlement. -/
def evaluatorKey (db : Db) (definitionId : Pk) : String :=
  ((db.definition? definitionId).map AchievementDefinition.evaluatorKey).getD ""

/-- `current_metric_problem`. -/
def currentMetricProblem (metrics : List WeeklyMetric)
    (entitlement : Option UserAchievement) : Option MetricProblem := do
  let entitlement ← entitlement
  guard entitlement.activeTier.isSome
  let proof ← proof? db entitlement.pk
  guard (proof.sourceType ≠ "manual")
  let metricId ← proof.evidence.metricId
  guard (metricId ≠ 0)
  let isQuality := evaluatorKey db entitlement.definitionId = "review_quality"
  match metrics.find? fun row =>
      decide (row.pk = metricId ∧ row.userId = entitlement.userId) with
  | none =>
      return {
        metricId := metricId
        missing := true
        value := none
        periodStart := none }
  | some current =>
      let value :=
        if isQuality then current.qualityPercent else current.speedHours
      let proven :=
        if isQuality then proof.evidence.qualityPercent
        else proof.evidence.speedHours
      guard
        ¬ (value = proven ∧ current.weekStartDate = proof.evidence.periodStart)
      return {
        metricId := metricId
        missing := false
        value := value
        periodStart := current.weekStartDate }

/-- The arguments of `grant`. -/
structure GrantRequest where
  userId : Pk
  definitionId : Pk
  tierCode : String
  evidence : Evidence
  occurredAt : OccurredAt
  sourceType : String
  sourceRef : Text
  operationId : Text
  actor : Option Actor := none
  reason : Text := []
  expectedRevision : Option Nat := none
  ruleVersion : Nat := 1

/-- A staff member asks, not a provider. -/
def GrantRequest.isManual (request : GrantRequest) : Bool :=
  decide (request.sourceType = "manual")

/-- The error of a date that is missing, naive or in the future. -/
def wrongDate : Failure :=
  .validation "Некорректная дата доказательства."

/-- The checks of `grant` before it takes the lock; the date it accepts. -/
def admitGrant
    (request : GrantRequest) (now : Timestamp) : Except Failure Timestamp := do
  if request.isManual then
    let _ ← staffReason request.actor request.reason
  else
    ensure (request.actor = none)
      (.validation "Автор автоматической выдачи задаётся доверенным provider.")
  match request.occurredAt with
  | .missing => .error wrongDate
  | .naive => .error wrongDate
  | .aware instant =>
      ensure (instant ≤ now) wrongDate
      return instant

/-- The tier that `grant` found and checked. -/
def grantedTier (request : GrantRequest) : Except Failure AchievementTier := do
  let definition ← required (.doesNotExist "AchievementDefinition")
    (db.definition? request.definitionId)
  let _ ← Catalog.validateDefinition definition
  ensure (definition.active ∧ definition.ruleVersion = request.ruleVersion)
    (.grantConflict "Определение отключено или версия правила изменилась.")
  let tier ← required (.doesNotExist "AchievementTier")
    (db.tier? request.definitionId request.tierCode)
  Catalog.validateTier definition tier
  ensure (request.isManual ∨ tier.parameters.automatic = some true)
    (.validation "Автоматическая выдача уровня отключена.")
  return tier

/-- The request digest of `grant`. -/
def grantDigest (request : GrantRequest) (tier : AchievementTier) : Digest :=
  db.digest (.grantRequest tier.pk request.evidence request.sourceType
      request.sourceRef (strip request.reason)
      (request.actor.map Actor.pk) request.ruleVersion)

/-- A new entitlement of the user for the definition. -/
def newAchievement (pk userId definitionId : Pk) : UserAchievement where
  pk := pk
  userId := userId
  definitionId := definitionId
  activeTier := none
  firstGrantedAt := none
  lastUpgradedAt := none
  lastChangedAt := none
  revision := 0
  autoGrantBlocked := false
  evidenceDisputed := false

/-- `UserAchievement.objects.get_or_create`. -/
def getOrCreate (userId definitionId : Pk) : Db × UserAchievement :=
  match db.achievement? userId definitionId with
  | some entitlement => (db, entitlement)
  | none =>
      let entitlement := newAchievement db.serial userId definitionId
      ({ db with
          serial := db.serial + 1
          achievements := db.achievements ++ [entitlement] },
        entitlement)

variable (entitlement : UserAchievement)

/-- The revision that the caller expects, if any, is the current one. -/
def ensureRevision (expected : Option Nat) : Except Failure Unit :=
  ensure (expected.all fun revision =>
      decide (revision = entitlement.revision))
    (.grantConflict "Ревизия награды изменилась.")

/-- `AchievementEvent.clean`. -/
def cleanEvent (actor : Option Actor)
    (event : AchievementEvent) : Except Failure Unit := do
  ensure
    ((∀ tier ∈ event.fromTier, tier.definitionId = entitlement.definitionId) ∧
      ∀ tier ∈ event.toTier, tier.definitionId = entitlement.definitionId)
    (.validation "Уровни события принадлежат другому определению.")
  ensure (event.action = .upgrade →
      ∃ old ∈ event.fromTier, ∃ new ∈ event.toTier, old.rank < new.rank)
    (.validation "Upgrade должен повышать уровень.")
  ensure (event.action = .revoke → event.sourceType = "manual")
    (.validation "Отзыв требует явного ручного действия.")
  ensure (event.sourceType = "manual" →
      (∃ staff ∈ actor, staff.isStaff) ∧ strip event.reason ≠ [])
    (.validation "Ручное событие требует staff и причину.")

/-- The constraint `achievement_event_shape_valid`. -/
def hasValidShape (event : AchievementEvent) : Bool :=
  match event.action with
  | .grant => event.fromTier.isNone && event.toTier.isSome
  | .upgrade => event.fromTier.isSome && event.toTier.isSome
  | .revoke => event.fromTier.isSome && event.toTier.isNone
  | .evidenceDisputed => true

/-- `AchievementEvent.objects.create`. -/
def insertEvent
    (actor : Option Actor) (event : AchievementEvent) : Except Failure Db := do
  cleanEvent entitlement actor event
  ensure (hasValidShape event ∧
      ∀ other ∈ db.events, other.idempotencyKey ≠ event.idempotencyKey)
    .integrity
  return { db with serial := db.serial + 1, events := db.events ++ [event] }

/-- `entitlement.save()`. -/
def save : Db :=
  { db with
    achievements :=
      Rows.modify UserAchievement.pk entitlement.pk (fun _ => entitlement)
        db.achievements }

/-- `enqueue`, after a grant or an upgrade was recorded. -/
def enqueue (userId : Pk) (event : AchievementEvent) : Db :=
  match db.boundary with
  | none => db
  | some startedAt =>
      if isProof event ∧ startedAt ≤ event.recordedAt ∧
          ∀ row ∈ db.notifications, row.eventId ≠ event.pk then
        { db with
          notifications :=
            db.notifications ++
              [{ eventId := event.pk
                 userId := userId
                 readAt := none
                 claimToken := none
                 claimExpiresAt := none }] }
      else
        db

/-- The event of a grant or an upgrade. -/
def grantEvent (request : GrantRequest) (tier : AchievementTier) (key : Digest)
    (occurredAt now : Timestamp) : AchievementEvent where
  pk := db.serial
  entitlementId := entitlement.pk
  action := if entitlement.activeTier.isSome then .upgrade else .grant
  fromTier := entitlement.activeTier
  toTier := some tier
  actorId := request.actor.map Actor.pk
  occurredAt := occurredAt
  recordedAt := now
  sourceType := request.sourceType
  sourceRef := request.sourceRef
  ruleVersion := request.ruleVersion
  evidence := request.evidence
  evidenceDigest := db.digest (.evidence request.evidence)
  reason := strip request.reason
  idempotencyKey := key
  revokedEvent := none

/-- The entitlement with the granted tier. -/
def grantedRow (tier : AchievementTier) (now : Timestamp) : UserAchievement :=
  { entitlement with
    activeTier := some tier
    firstGrantedAt := some (entitlement.firstGrantedAt.getD now)
    lastUpgradedAt :=
      if entitlement.activeTier.isSome then some now
      else entitlement.lastUpgradedAt
    lastChangedAt := some now
    revision := entitlement.revision + 1 }

/-- The outcome that goes with the event of a grant. -/
def grantOutcome : Outcome :=
  if entitlement.activeTier.isSome then .upgrade else .grant

/-- The tier is no higher than the active one. -/
def isNoOp (tier : AchievementTier) : Bool :=
  entitlement.activeTier.any fun active => decide (tier.rank ≤ active.rank)

/-- The part of `grant` after its request turned out to be new. -/
def grantNew (request : GrantRequest) (tier : AchievementTier)
    (key requestDigest : Digest)
    (occurredAt now : Timestamp) : Except Failure (Db × Reply) := do
  let (db, entitlement) := getOrCreate db request.userId request.definitionId
  ensureRevision entitlement request.expectedRevision
  if ¬ request.isManual ∧ entitlement.autoGrantBlocked then
    return remember db key requestDigest entitlement.pk .suppressed none now
  if isNoOp entitlement tier then
    return remember db key requestDigest entitlement.pk .noOp none now
  let event := grantEvent db entitlement request tier key occurredAt now
  let recorded ← insertEvent db entitlement request.actor event
  let saved := save recorded (grantedRow entitlement tier now)
  let enqueued := enqueue saved request.userId event
  return remember enqueued key requestDigest entitlement.pk
    (grantOutcome entitlement) (some event.pk) now

/-- The reply to a repeated request. -/
def duplicateReply (receipt : AchievementOperation) : Reply where
  entitlementId := receipt.entitlementId
  outcome := .duplicate
  eventId := receipt.eventId

/-- The entitlement of the receipt is closed to automatic grants. -/
def isBlocked (receipt : AchievementOperation) : Bool :=
  db.achievements.any fun row =>
    decide (row.pk = receipt.entitlementId) && row.autoGrantBlocked

/-- `grant`. -/
def grant (db : Db) (request : GrantRequest)
    (now : Timestamp) : Except Failure (Db × Reply) := do
  let occurredAt ← admitGrant request now
  lockUser db request.userId
  let tier ← grantedTier db request
  let key ← operationKey db request.userId request.definitionId "grant"
    request.operationId
  let requestDigest := grantDigest db request tier
  match ← repeated db key requestDigest with
  | some receipt =>
      if ¬ request.isManual ∧ isBlocked db receipt then
        return (db,
          { entitlementId := receipt.entitlementId
            outcome := .suppressed
            eventId := none })
      return (db, duplicateReply receipt)
  | none => grantNew db request tier key requestDigest occurredAt now

/-- The arguments of `revoke`. -/
structure RevokeRequest where
  userId : Pk
  definitionId : Pk
  actor : Option Actor
  reason : Text
  operationId : Text
  expectedRevision : Option Nat := none

/-- The event of a revocation. -/
def revokeEvent (definition : AchievementDefinition)
    (entitlement : UserAchievement) (request : RevokeRequest) (actor : Actor)
    (proof : AchievementEvent) (key : Digest)
    (now : Timestamp) : AchievementEvent where
  pk := db.serial
  entitlementId := entitlement.pk
  action := .revoke
  fromTier := entitlement.activeTier
  toTier := none
  actorId := some actor.pk
  occurredAt := now
  recordedAt := now
  sourceType := "manual"
  sourceRef := request.operationId
  ruleVersion := definition.ruleVersion
  evidence := { revokedEventId := some proof.pk }
  evidenceDigest := db.digest (.evidence { revokedEventId := some proof.pk })
  reason := strip request.reason
  idempotencyKey := key
  revokedEvent := some proof.pk

/-- The revoked entitlement. -/
def revokedRow (now : Timestamp) : UserAchievement :=
  { entitlement with
    activeTier := none
    autoGrantBlocked := true
    lastChangedAt := some now
    revision := entitlement.revision + 1 }

/-- The part of `revoke` after its request turned out to be new. -/
def revokeNew (definition : AchievementDefinition) (request : RevokeRequest)
    (actor : Actor) (key requestDigest : Digest)
    (now : Timestamp) : Except Failure (Db × Reply) := do
  let entitlement ← required (.doesNotExist "UserAchievement")
    (db.achievement? request.userId definition.pk)
  ensureRevision entitlement request.expectedRevision
  if entitlement.activeTier.isNone then
    return remember db key requestDigest entitlement.pk .noOp none now
  let proof ← required .noProof (proof? db entitlement.pk)
  let event := revokeEvent db definition entitlement request actor proof key now
  let recorded ← insertEvent db entitlement (some actor) event
  let saved := save recorded (revokedRow entitlement now)
  return remember saved key requestDigest entitlement.pk .revoke
    (some event.pk) now

/-- `revoke`. -/
def revoke (db : Db) (request : RevokeRequest)
    (now : Timestamp) : Except Failure (Db × Reply) := do
  let actor ← staffReason request.actor request.reason
  lockUser db request.userId
  let definition ← required (.doesNotExist "AchievementDefinition")
    (db.definition? request.definitionId)
  let key ← operationKey db request.userId request.definitionId "revoke"
    request.operationId
  let requestDigest :=
    db.digest (.revokeRequest actor.pk (strip request.reason))
  match ← repeated db key requestDigest with
  | some receipt => return (db, duplicateReply receipt)
  | none => revokeNew db definition request actor key requestDigest now

/-- The arguments of `flag_disputed`. -/
structure DisputeRequest where
  userId : Pk
  metricId : Option Pk := none
  confirmationRevoked : Bool := false
  source : SourceId
  definitionId : Option Pk := none
  sandboxInvalid : Bool := false

variable (request : DisputeRequest)

/-- The correction invalidates the proof of the entitlement. -/
def isAffected
    (entitlement : UserAchievement) (proof : AchievementEvent) : Bool :=
  let key := evaluatorKey db entitlement.definitionId
  (request.metricId.isSome &&
      decide (proof.evidence.metricId = request.metricId)) ||
    (request.confirmationRevoked && decide (key = "training_program")) ||
    (request.sandboxInvalid &&
      decide (key ∈ ["sandbox_program", "sandbox_first_five_clean_answers"]))

/-- The proof that the request disputes, if it disputes the entitlement. -/
def disputed? (entitlement : UserAchievement) : Option AchievementEvent := do
  guard (request.definitionId.all fun wanted =>
      decide (wanted = entitlement.definitionId))
  let proof ← proof? db entitlement.pk
  guard (proof.sourceType ≠ "manual")
  guard (isAffected db request entitlement proof)
  guard (∀ event ∈ db.events,
      event.idempotencyKey ≠ db.digest (.dispute request.source entitlement.pk))
  return proof

/-- The event of a dispute. -/
def disputeEvent (entitlement : UserAchievement)
    (proof : AchievementEvent) (now : Timestamp) : AchievementEvent where
  pk := db.serial
  entitlementId := entitlement.pk
  action := .evidenceDisputed
  fromTier := entitlement.activeTier
  toTier := entitlement.activeTier
  actorId := none
  occurredAt := now
  recordedAt := now
  sourceType := "source_correction"
  sourceRef := request.source.ref
  ruleVersion := proof.ruleVersion
  evidence := { disputedEventId := some proof.pk }
  evidenceDigest := db.digest (.evidence { disputedEventId := some proof.pk })
  reason := ("Исходное доказательство изменено; " ++
      "необходим явный staff review/revoke.").toList
  idempotencyKey := db.digest (.dispute request.source entitlement.pk)
  revokedEvent := none

/-- The disputed entitlement. -/
def disputedRow (now : Timestamp) : UserAchievement :=
  { entitlement with
    evidenceDisputed := true
    revision := entitlement.revision + 1
    lastChangedAt := some now }

/-- One round of the loop of `flag_disputed`. -/
def disputeOne (now : Timestamp) (db : Db)
    (entitlement : UserAchievement) : Except Failure Db :=
  match disputed? db request entitlement with
  | none => .ok db
  | some proof => do
      let recorded ← insertEvent db entitlement none
        (disputeEvent db request entitlement proof now)
      return save recorded (disputedRow entitlement now)

/-- The entitlements of the user with an active tier. -/
def activeOf (userId : Pk) : List UserAchievement :=
  db.achievements.filter fun row =>
    decide (row.userId = userId) && row.activeTier.isSome

/-- `flag_disputed`. -/
def flagDisputed (now : Timestamp) : Except Failure Db := do
  lockUser db request.userId
  (activeOf db request.userId).foldlM (disputeOne request now) db

end TicketSandbox.Achievements.Grants
