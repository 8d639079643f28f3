import TicketSandbox.Achievements.Awards

namespace TicketSandbox.Achievements

/-!
# Receipts stay honoured

The receipt of a grant promises that its tier is reached, or that staff has
revoked the award.  Every call keeps the promises of all receipts, because an
award only loses its tier by being revoked.
-/

open Raises
open Sandbox (Pk Timestamp Text)
open Grants Reconciliation Events

/-- The unique keys of the catalog tables. -/
structure Catalog.Constraints (catalog : Catalog) : Prop where
  definitions : (catalog.definitions.map AchievementDefinition.pk).Nodup
  tiers : (catalog.tiers.map AchievementTier.pk).Nodup

/-- Every receipt of a grant is honoured by the award it is about. -/
structure Honoured (db : Db) : Prop where
  collisionFree : Function.Injective db.digest
  constraints : db.catalog.Constraints
  honoured : ∀ receipt ∈ db.operations, ∀ request tier key,
      Admitted db request tier key →
      IsReceipt db request tier key receipt →
      (db.award request.userId request.definitionId).autoGrantBlocked = true ∨
        (db.award request.userId request.definitionId).reaches tier = true

namespace Honoured

variable {db next : Db} {request : GrantRequest} {tier : AchievementTier}
  {key : Digest}

theorem tier_mem
    (admitted : Admitted db request tier key) : tier ∈ db.catalog.tiers :=
  List.mem_of_find?_eq_some admitted.tier

theorem admitted_iff (ground : SameGround db next) (request : GrantRequest)
    (tier : AchievementTier) (key : Digest) :
    Admitted next request tier key ↔ Admitted db request tier key := by
  have same : next.tier? = db.tier? := by
    funext definitionId code
    rw [Db.tier?, Db.tier?, ground.catalog]
  constructor
  · rintro ⟨tierFound, keyFound⟩
    exact ⟨same ▸ tierFound, ground.digest ▸ keyFound⟩
  · rintro ⟨tierFound, keyFound⟩
    exact ⟨same.symm ▸ tierFound, ground.digest.symm ▸ keyFound⟩

theorem isReceipt_iff (ground : SameGround db next) (request : GrantRequest)
    (tier : AchievementTier) (key : Digest) (receipt : AchievementOperation) :
    IsReceipt next request tier key receipt ↔
      IsReceipt db request tier key receipt := by
  have same : grantDigest next request tier = grantDigest db request tier := by
    rw [grantDigest, grantDigest, ground.digest]
  constructor
  · rintro ⟨isKey, isRequest⟩
    exact ⟨isKey, isRequest.trans same⟩
  · rintro ⟨isKey, isRequest⟩
    exact ⟨isKey, isRequest.trans same.symm⟩

theorem same_of_receipt (honoured : Honoured db) {other : GrantRequest}
    {otherTier : AchievementTier} {otherKey : Digest}
    {receipt : AchievementOperation} (admitted : Admitted db request tier key)
    (otherAdmitted : Admitted db other otherTier otherKey)
    (isReceipt : IsReceipt db request tier key receipt)
    (isOther : IsReceipt db other otherTier otherKey receipt) :
    other.userId = request.userId ∧
      other.definitionId = request.definitionId ∧ otherTier = tier := by
  have keys := honoured.collisionFree (otherAdmitted.key.symm.trans
        ((isOther.key.symm.trans isReceipt.key).trans admitted.key))
  have requests :=
    honoured.collisionFree (isOther.request.symm.trans isReceipt.request)
  simp only [Digested.operation.injEq] at keys
  simp only [Digested.grantRequest.injEq] at requests
  exact ⟨keys.1, keys.2.1, Rows.eq_of_key honoured.constraints.tiers
        (tier_mem otherAdmitted) (tier_mem admitted) requests.1⟩

theorem ofKept (honoured : Honoured db) (ground : SameGround db next) (kept :
      ∀ userId definitionId, Award.Kept (db.award userId definitionId)
          (next.award userId definitionId))
    (added : ∀ receipt ∈ next.operations, receipt ∉ db.operations →
        ∀ request tier key, Admitted db request tier key →
          IsReceipt db request tier key receipt →
          (next.award request.userId
                request.definitionId).autoGrantBlocked = true ∨
            (next.award request.userId
                request.definitionId).reaches tier = true) :
    Honoured next where
  collisionFree := by
    rw [ground.digest]
    exact honoured.collisionFree
  constraints := by
    rw [ground.catalog]
    exact honoured.constraints
  honoured := by
    intro receipt member request tier key admitted isReceipt
    rw [admitted_iff ground] at admitted
    rw [isReceipt_iff ground] at isReceipt
    by_cases old : receipt ∈ db.operations
    · have promise :=
        honoured.honoured receipt old request tier key admitted isReceipt
      have keeps := kept request.userId request.definitionId
      rcases promise with isBlocked | reached
      · exact .inl (keeps.blocked isBlocked)
      · rcases keeps.ranks with isBlocked | ranks
        · exact .inl isBlocked
        · exact .inr (ranks tier reached)
    · exact added receipt member old request tier key admitted isReceipt

theorem empty
    (catalog : Catalog) (hasUser : Pk → Bool) (digest : Digested → Digest)
    (boundary : Option Timestamp) (collisionFree : Function.Injective digest)
    (constraints : catalog.Constraints) :
    Honoured (Db.empty catalog hasUser digest boundary) where
  collisionFree := collisionFree
  constraints := constraints
  honoured := by simp [Db.empty]

/-- A service keeps every receipt honoured. -/
theorem service (honoured : Honoured db) (service : Service db next) :
    Honoured next := by
  cases service with
  | idle idle =>
      refine honoured.ofKept idle.ground ?_ ?_
      · intro userId definitionId
        rw [idle.awards]
        exact .refl _
      · intro receipt member isNew
        rw [idle.operations] at member
        exact (isNew member).elim
  | @given request tier key admitted given =>
      cases given with
      | repeated _ _ _ same =>
          rw [same]
          exact honoured
      | given receipt isReceipt ground award others operations =>
          refine honoured.ofKept ground ?_ ?_
          · intro userId definitionId
            by_cases same :
                (userId, definitionId) = (request.userId, request.definitionId)
            · obtain ⟨rfl, rfl⟩ := Prod.mk.inj same
              rw [award]
              exact Award.given_kept ..
            · rw [others userId definitionId same]
              exact .refl _
          · intro added member isNew other otherTier otherKey otherAdmitted
              isOther
            rw [operations] at member
            rcases List.mem_append.mp member with old | new
            · exact (isNew old).elim
            · obtain rfl := List.mem_singleton.mp new
              obtain ⟨sameUser, sameDefinition, rfl⟩ :=
                honoured.same_of_receipt admitted otherAdmitted isReceipt
                  isOther
              rw [sameUser, sameDefinition, award]
              exact Award.given_reaches ..
  | revoked revoked =>
      cases revoked with
      | repeated same =>
          rw [same]
          exact honoured
      | revoked receipt key ground kept operations =>
          refine honoured.ofKept ground kept ?_
          intro added member isNew other otherTier otherKey otherAdmitted
            isOther
          rw [operations] at member
          rcases List.mem_append.mp member with old | new
          · exact (isNew old).elim
          · obtain rfl := List.mem_singleton.mp new
            have keys := honoured.collisionFree
                (otherAdmitted.key.symm.trans (isOther.key.symm.trans key))
            simp at keys

/-- Receipts stay honoured in every run. -/
theorem run {permitted : Db → Call → Prop} {first last : Db} {calls : List Call}
    (honoured : Honoured first) (keyed : Keyed first)
    (run : Runs.Run Db.step? permitted first calls last) :
    Honoured last ∧ Keyed last := by
  refine run.invariant (fun db => Honoured db ∧ Keyed db) ?_ ⟨honoured, keyed⟩
  rintro db call next _ stepped ⟨held, heldKeyed⟩
  cases stepped
  exact ⟨(acts_services (call_acts db call) heldKeyed).invariant Honoured
        (fun _ _ service before => before.service service) held,
      (call_writes call heldKeyed).keyed heldKeyed⟩

end Honoured

end TicketSandbox.Achievements

namespace TicketSandbox.Achievements

/-!
# Keys of the events

An event is recorded under the key of a receipt or of a dispute, and an active
tier belongs to the definition of its entitlement.  Every call keeps this, so a
new request and a new dispute always find their keys unused.
-/

open Raises
open Sandbox (Pk Timestamp Text)
open Grants

/-- The active tier is one of the definition. -/
def UserAchievement.HasOwnTier (row : UserAchievement) : Prop :=
  ∀ tier ∈ row.activeTier, tier.definitionId = row.definitionId

variable {row : UserAchievement}

theorem UserAchievement.hasOwnTier_of_none
    (inactive : row.activeTier = none) : row.HasOwnTier := by
  intro tier member
  rw [inactive] at member
  cases member

/-- A receipt stands under the key. -/
def Db.HasReceipt (db : Db) (key : Digest) : Prop :=
  ∃ receipt ∈ db.operations, receipt.key = key

/-- The key is one of a dispute. -/
def Db.IsDisputeKey (db : Db) (key : Digest) : Prop :=
  ∃ source entitlement, key = db.digest (.dispute source entitlement)

/-- Active tiers are their definitions' own, and every event has a receipt or
is a dispute. -/
structure Logged (db : Db) : Prop where
  tiers : ∀ row ∈ db.achievements, row.HasOwnTier
  keys : ∀ event ∈ db.events,
      db.IsDisputeKey event.idempotencyKey ∨ db.HasReceipt event.idempotencyKey

namespace Logged

theorem empty (catalog : Catalog) (hasUser : Pk → Bool)
    (digest : Digested → Digest) (boundary : Option Timestamp) :
    Logged (Db.empty catalog hasUser digest boundary) where
  tiers := by simp [Db.empty]
  keys := by simp [Db.empty]

theorem tiers_modified {rows : List UserAchievement} {pk : Pk}
    (tiers : ∀ old ∈ rows, old.HasOwnTier) (own : row.HasOwnTier) :
    ∀ version ∈ Rows.modify UserAchievement.pk pk (fun _ => row) rows,
      version.HasOwnTier := by
  intro version member
  obtain ⟨old, isOld, ⟨_, rfl⟩ | ⟨_, rfl⟩⟩ := Rows.mem_modify.mp member
  · exact own
  · exact tiers version isOld

variable {db : Db}

theorem beside {next : Db} (logged : Logged db) (ground : SameGround db next)
    (achievements : next.achievements = db.achievements)
    (events : next.events = db.events)
    (operations : next.operations = db.operations) :
    Logged next where
  tiers := by
    rw [achievements]
    exact logged.tiers
  keys := by
    rw [events]
    simp only [Db.IsDisputeKey, Db.HasReceipt, ground.digest, operations]
    exact logged.keys

theorem remembered
    (logged : Logged db) (key requestDigest : Digest) (entitlementId : Pk)
    (outcome : Outcome) (eventId : Option Pk) (now : Timestamp) :
    Logged (remember db key requestDigest entitlementId outcome eventId now).1
    where
  tiers := logged.tiers
  keys := by
    intro event member
    rcases logged.keys event member with dispute | ⟨receipt, isOld, same⟩
    · exact .inl dispute
    · exact .inr ⟨receipt, List.mem_append_left _ isOld, same⟩

theorem opened (logged : Logged db) (userId definitionId : Pk) :
    Logged (getOrCreate db userId definitionId).1 := by
  unfold getOrCreate
  split
  · exact logged
  · refine ⟨fun row member => ?_, logged.keys⟩
    rcases List.mem_append.mp member with old | isNew
    · exact logged.tiers row old
    · rw [List.mem_singleton.mp isNew]
      exact UserAchievement.hasOwnTier_of_none rfl

end Logged

namespace Grants

variable {db next : Db} {entitlement : UserAchievement} {actor : Option Actor}
  {event : AchievementEvent} {requestDigest : Digest} {now : Timestamp}
  {request : GrantRequest} {reply : Reply}

theorem insertEvent_own
    (accepted : insertEvent db entitlement actor event = .ok next) :
    ∀ tier ∈ event.toTier, tier.definitionId = entitlement.definitionId := by
  obtain ⟨_, clean, _⟩ := bind_ok.mp accepted
  obtain ⟨_, own, _⟩ := bind_ok.mp clean
  exact (ensure_ok.mp own).2

theorem recorded_logged {recorded : Db} {outcome : Outcome}
    {eventId : Option Pk} (logged : Logged db)
    (accepted : insertEvent db entitlement actor event = .ok recorded)
    (own : row.HasOwnTier) (ground : SameGround (save recorded row) next)
    (achievements : next.achievements = (save recorded row).achievements)
    (events : next.events = (save recorded row).events)
    (operations : next.operations = (save recorded row).operations) :
    Logged (remember next event.idempotencyKey requestDigest entitlement.pk
        outcome eventId now).1 := by
  have shape := insertEvent_ok accepted
  subst shape
  refine ⟨?_, ?_⟩
  · change ∀ row ∈ next.achievements, row.HasOwnTier
    rw [achievements]
    exact Logged.tiers_modified logged.tiers own
  · intro other member
    change other ∈ next.events at member
    rw [events] at member
    rcases List.mem_append.mp member with old | isNew
    · rcases logged.keys other old with ⟨source, about, same⟩ |
        ⟨receipt, isOld, same⟩
      · refine .inl ⟨source, about, same.trans ?_⟩
        exact congrFun ground.digest.symm _
      · refine .inr ⟨receipt, List.mem_append_left _ ?_, same⟩
        rw [operations]
        exact isOld
    · rw [List.mem_singleton.mp isNew]
      exact .inr ⟨_, List.mem_append_right _ (List.mem_singleton_self _), rfl⟩

theorem enqueue_same (db : Db) (userId : Pk) (event : AchievementEvent) :
    SameGround db (enqueue db userId event) ∧
      (enqueue db userId event).achievements = db.achievements ∧
      (enqueue db userId event).events = db.events ∧
      (enqueue db userId event).operations = db.operations := by
  unfold enqueue
  split
  · exact ⟨.refl db, rfl, rfl, rfl⟩
  · split <;> exact ⟨⟨rfl, rfl, rfl⟩, rfl, rfl, rfl⟩

theorem grantNew_logged
    {tier : AchievementTier} {key : Digest} {occurredAt : Timestamp}
    (logged : Logged db) (accepted :
      grantNew db request tier key requestDigest occurredAt now =
        .ok (next, reply)) :
    Logged next := by
  have opening := logged.opened request.userId request.definitionId
  unfold grantNew at accepted
  generalize getOrCreate db request.userId request.definitionId = found
    at accepted opening
  obtain ⟨opened, entitlement⟩ := found
  obtain ⟨_, _, accepted⟩ := bind_ok.mp accepted
  split at accepted
  · cases accepted
    exact opening.remembered ..
  split at accepted
  · cases accepted
    exact opening.remembered ..
  obtain ⟨recorded, inserted, accepted⟩ := bind_ok.mp accepted
  cases accepted
  have own : (grantedRow entitlement tier now).HasOwnTier :=
    insertEvent_own inserted
  obtain ⟨ground, achievements, events, operations⟩ :=
    enqueue_same (save recorded (grantedRow entitlement tier now))
      request.userId
      (grantEvent opened entitlement request tier key occurredAt now)
  exact
    recorded_logged opening inserted own ground achievements events operations

theorem grant_logged
    (logged : Logged db) (accepted : grant db request now = .ok (next, reply)) :
    Logged next := by
  rcases grant_cases accepted with rfl | ⟨_, _, _, _, accepted⟩
  · exact logged
  · exact grantNew_logged logged accepted

theorem revoke_logged {request : RevokeRequest} (logged : Logged db)
    (accepted : revoke db request now = .ok (next, reply)) :
    Logged next := by
  unfold revoke at accepted
  obtain ⟨actor, _, accepted⟩ := bind_ok.mp accepted
  obtain ⟨_, _, accepted⟩ := bind_ok.mp accepted
  obtain ⟨definition, _, accepted⟩ := bind_ok.mp accepted
  obtain ⟨key, _, accepted⟩ := bind_ok.mp accepted
  obtain ⟨found, _, accepted⟩ := bind_ok.mp accepted
  split at accepted
  · cases accepted
    exact logged
  unfold revokeNew at accepted
  obtain ⟨entitlement, _, accepted⟩ := bind_ok.mp accepted
  obtain ⟨_, _, accepted⟩ := bind_ok.mp accepted
  split at accepted
  · cases accepted
    exact logged.remembered ..
  obtain ⟨proof, _, accepted⟩ := bind_ok.mp accepted
  obtain ⟨recorded, inserted, accepted⟩ := bind_ok.mp accepted
  cases accepted
  have own : (revokedRow entitlement now).HasOwnTier :=
    UserAchievement.hasOwnTier_of_none rfl
  exact recorded_logged logged inserted own (.refl _) rfl rfl rfl

theorem disputeOne_logged {request : DisputeRequest} (logged : Logged db)
    (accepted : disputeOne request now db entitlement = .ok next) :
    Logged next := by
  unfold disputeOne at accepted
  split at accepted
  · cases accepted
    exact logged
  · obtain ⟨recorded, inserted, accepted⟩ := bind_ok.mp accepted
    cases accepted
    have own : (disputedRow entitlement now).HasOwnTier :=
      insertEvent_own inserted
    have shape := insertEvent_ok inserted
    subst shape
    refine ⟨Logged.tiers_modified logged.tiers own, ?_⟩
    intro other member
    rcases List.mem_append.mp member with old | isNew
    · exact logged.keys other old
    · rw [List.mem_singleton.mp isNew]
      exact .inl ⟨request.source, entitlement.pk, rfl⟩

theorem flagDisputed_logged {request : DisputeRequest} (logged : Logged db)
    (accepted : flagDisputed db request now = .ok next) :
    Logged next := by
  obtain ⟨_, _, accepted⟩ := bind_ok.mp accepted
  exact foldlM_invariant Logged
      (fun _ _ _ _ before one => disputeOne_logged before one) logged
      accepted

end Grants

theorem act_logged {automatic : Bool} {db next : Db}
    (act : Act automatic db next) (logged : Logged db) :
    Logged next := by
  cases act with
  | granted request now reply permitted accepted =>
      exact grant_logged logged accepted
  | revoked request now reply manual accepted =>
      exact revoke_logged logged accepted
  | disputed request now accepted => exact flagDisputed_logged logged accepted
  | beside ground serial achievements events operations =>
      exact logged.beside ground achievements events operations

/-- Every award stays logged in every run. -/
theorem Logged.run {permitted : Db → Call → Prop} {first last : Db}
    {calls : List Call} (logged : Logged first)
    (run : Runs.Run Db.step? permitted first calls last) :
    Logged last := by
  refine run.invariant Logged ?_ logged
  rintro db call next _ stepped held
  cases stepped
  exact (call_acts db call).invariant Logged
      (fun _ _ act before => act_logged act before) held

end TicketSandbox.Achievements
