import TicketSandbox.Achievements.Writes

namespace TicketSandbox.Achievements

/-!
# What the services do to an award

The award of a user is the active tier together with the mark that staff has
revoked it.  Disputes leave every award alone, a grant moves one award by one
rule, and a receipt of a grant stays honoured by the award from then on.
-/

open Raises
open Sandbox (Pk Timestamp Text)
open Grants Reconciliation Events

/-- The active tier, and whether staff has closed it to automatic grants. -/
structure Award where
  activeTier : Option AchievementTier
  autoGrantBlocked : Bool

namespace Award

/-- Nothing was granted. -/
def nothing : Award where
  activeTier := none
  autoGrantBlocked := false

/-- The award has a tier of at least the rank. -/
def reaches (award : Award) (tier : AchievementTier) : Bool :=
  award.activeTier.any fun active => decide (tier.rank ≤ active.rank)

/-- The award after a grant of the tier. -/
def given (award : Award) (manual : Bool) (tier : AchievementTier) : Award :=
  if ¬ manual ∧ award.autoGrantBlocked then
    award
  else if award.reaches tier then
    award
  else
    { award with activeTier := some tier }

/-- The award as it can be later: revoked, or of no lower rank. -/
structure Kept (old new : Award) : Prop where
  blocked : old.autoGrantBlocked = true → new.autoGrantBlocked = true
  ranks : new.autoGrantBlocked = true ∨
      ∀ tier, old.reaches tier = true → new.reaches tier = true

namespace Kept

theorem refl (award : Award) : Kept award award :=
  ⟨id, .inr fun _ => id⟩

end Kept

theorem given_kept (award : Award) (manual : Bool) (tier : AchievementTier) :
    Kept award (award.given manual tier) := by
  unfold given
  split
  · exact .refl award
  split
  · exact .refl award
  · rename_i lower
    refine ⟨id, .inr ?_⟩
    intro other reached
    cases active : award.activeTier with
    | none => simp [reaches, active] at reached
    | some old =>
        simp only [reaches, active, Option.any_some, decide_eq_true_eq]
          at reached lower
        simp only [reaches, Option.any_some, decide_eq_true_eq]
        exact Nat.le_trans reached (Nat.le_of_lt (Nat.lt_of_not_le lower))

theorem given_reaches (award : Award) (manual : Bool) (tier : AchievementTier) :
    (award.given manual tier).autoGrantBlocked = true ∨
      (award.given manual tier).reaches tier = true := by
  unfold given
  split
  · rename_i suppressed
    exact .inl suppressed.2
  split
  · rename_i reached
    exact .inr reached
  · exact .inr (by simp [reaches])

theorem given_eq {award : Award} {tier : AchievementTier}
    (settled : award.autoGrantBlocked = true ∨ award.reaches tier = true) :
    award.given false tier = award := by
  unfold given
  rcases settled with isBlocked | reached
  · rw [if_pos ⟨Bool.false_ne_true, isBlocked⟩]
  · simp [reached]

theorem given_given (award : Award) (tier : AchievementTier) :
    (award.given false tier).given false tier =
      award.given false tier :=
  given_eq (award.given_reaches false tier)

end Award

/-- The award that an entitlement stores. -/
def UserAchievement.award (row : UserAchievement) : Award where
  activeTier := row.activeTier
  autoGrantBlocked := row.autoGrantBlocked

/-- The award of the user for the definition. -/
def Db.award (db : Db) (userId definitionId : Pk) : Award :=
  ((db.achievement? userId definitionId).map
    UserAchievement.award).getD .nothing

/-- The transaction moves no award and leaves no receipt. -/
structure Idle (db next : Db) : Prop where
  ground : SameGround db next
  awards : ∀ userId definitionId,
      next.award userId definitionId = db.award userId definitionId
  operations : next.operations = db.operations

variable {db next : Db} {automatic : Bool}

namespace Idle

theorem refl (db : Db) : Idle db db :=
  ⟨.refl db, fun _ _ => rfl, rfl⟩

theorem trans {first second third : Db} (early : Idle first second)
    (late : Idle second third) :
    Idle first third where
  ground := early.ground.trans late.ground
  awards := fun userId definitionId =>
    (late.awards userId definitionId).trans (early.awards userId definitionId)
  operations := late.operations.trans early.operations

theorem beside (ground : SameGround db next)
    (achievements : next.achievements = db.achievements)
    (operations : next.operations = db.operations) :
    Idle db next where
  ground := ground
  awards := fun userId definitionId => by
    rw [Db.award, Db.award, Db.achievement?, Db.achievement?, achievements]
  operations := operations

end Idle

namespace Grants

variable {entitlement row : UserAchievement} {now : Timestamp}
  {userId definitionId : Pk} {reply : Reply}

theorem saved_achievement?
    (unique : (db.achievements.map UserAchievement.pk).Nodup)
    (member : entitlement ∈ db.achievements)
    (sameUser : row.userId = entitlement.userId)
    (sameDefinition : row.definitionId = entitlement.definitionId)
    (achievements : next.achievements =
        Rows.modify UserAchievement.pk entitlement.pk (fun _ => row)
          db.achievements)
    (userId definitionId : Pk) :
    next.achievement? userId definitionId =
      (db.achievement? userId definitionId).map fun old =>
        if old.pk = entitlement.pk then row else old := by
  rw [Db.achievement?, achievements]
  refine Rows.find?_modify ?_
  intro old oldMember same
  rw [Rows.eq_of_key unique oldMember member same, sameUser, sameDefinition]

variable {request : DisputeRequest}

theorem disputeOne_idle
    (keyed : Keyed db) (member : entitlement ∈ db.achievements)
    (accepted : disputeOne request now db entitlement = .ok next) :
    Idle db next := by
  unfold disputeOne at accepted
  split at accepted
  · cases accepted
    exact .refl db
  · obtain ⟨recorded, inserted, accepted⟩ := bind_ok.mp accepted
    cases accepted
    have shape := insertEvent_ok inserted
    subst shape
    refine ⟨⟨rfl, rfl, rfl⟩, ?_, rfl⟩
    intro userId definitionId
    have finds := saved_achievement? keyed.unique member
        (Eq.refl (disputedRow entitlement now).userId)
        (Eq.refl (disputedRow entitlement now).definitionId)
        (Eq.refl (save
            { db with
              serial := db.serial + 1
              events :=
                db.events ++ [disputeEvent db request entitlement ‹_› now] }
            (disputedRow entitlement now)).achievements)
        userId definitionId
    rw [Db.award, Db.award, finds]
    cases found : db.achievement? userId definitionId with
    | none => rfl
    | some old =>
        have oldMember := List.mem_of_find?_eq_some found
        by_cases same : old.pk = entitlement.pk
        · rw [Rows.eq_of_key keyed.unique oldMember member same]
          simp [UserAchievement.award, disputedRow]
        · simp [same]

theorem disputeAll_idle {entitlements : List UserAchievement} (keyed : Keyed db)
    (unique : (entitlements.map UserAchievement.pk).Nodup)
    (members : ∀ row ∈ entitlements, row ∈ db.achievements)
    (accepted : entitlements.foldlM (disputeOne request now) db = .ok next) :
    Idle db next := by
  induction entitlements generalizing db with
  | nil =>
      cases accepted
      exact .refl _
  | cons entitlement rest inductionHypothesis =>
      rw [List.foldlM_cons] at accepted
      obtain ⟨middle, one, accepted⟩ := bind_ok.mp accepted
      have member := members entitlement List.mem_cons_self
      have written := @disputeOne_writes true _ _ _ _ _ member one
      obtain ⟨writes, others⟩ := written
      rw [List.map_cons, List.nodup_cons] at unique
      refine (disputeOne_idle keyed member one).trans
        (inductionHypothesis (writes.keyed keyed) unique.2 ?_ accepted)
      intro row rowMember
      refine others row (members row (List.mem_cons_of_mem _ rowMember)) ?_
      intro same
      exact unique.1 (List.mem_map.mpr ⟨row, rowMember, same⟩)

theorem flagDisputed_idle
    (keyed : Keyed db) (accepted : flagDisputed db request now = .ok next) :
    Idle db next := by
  obtain ⟨_, _, accepted⟩ := bind_ok.mp accepted
  refine disputeAll_idle keyed ?_ ?_ accepted
  · exact keyed.unique.sublist (List.filter_sublist.map _)
  · exact fun row member => List.mem_of_mem_filter member

/-- What `grant` checked before it looked for a receipt. -/
structure Admitted (db : Db) (request : GrantRequest) (tier : AchievementTier)
    (key : Digest) : Prop where
  tier : db.tier? request.definitionId request.tierCode = some tier
  key : key = db.digest (.operation request.userId request.definitionId "grant"
          request.operationId)

/-- The receipt that a new request for a grant leaves. -/
structure IsReceipt
    (db : Db) (request : GrantRequest) (tier : AchievementTier) (key : Digest)
    (receipt : AchievementOperation) : Prop where
  key : receipt.key = key
  request : receipt.requestDigest = grantDigest db request tier

/-- What a successful grant did: nothing again, or one award moved. -/
inductive Given
    (db : Db) (request : GrantRequest) (tier : AchievementTier) (key : Digest)
    (next : Db) : Prop where
  | repeated (receipt : AchievementOperation) (member : receipt ∈ db.operations)
      (isReceipt : IsReceipt db request tier key receipt)
      (same : next = db)
  | given (receipt : AchievementOperation)
      (isReceipt : IsReceipt db request tier key receipt)
      (ground : SameGround db next)
      (award : next.award request.userId request.definitionId =
          (db.award request.userId request.definitionId).given
            request.isManual tier)
      (others : ∀ userId definitionId,
          (userId, definitionId) ≠ (request.userId, request.definitionId) →
          next.award userId definitionId = db.award userId definitionId)
      (operations : next.operations = db.operations ++ [receipt])

theorem getOrCreate_idle (db : Db) (userId definitionId : Pk) :
    Idle db (getOrCreate db userId definitionId).1 ∧
      (getOrCreate db userId definitionId).1.achievement? userId definitionId =
        some (getOrCreate db userId definitionId).2 := by
  unfold getOrCreate
  split
  · rename_i entitlement found
    exact ⟨.refl db, found⟩
  · rename_i absent
    refine ⟨⟨⟨rfl, rfl, rfl⟩, ?_, rfl⟩, ?_⟩
    · intro otherUser otherDefinition
      rw [Db.award, Db.award, Db.achievement?, Db.achievement?,
        List.find?_append]
      cases found : db.achievements.find? fun row =>
            decide
              (row.userId = otherUser ∧ row.definitionId = otherDefinition) with
      | some old => rfl
      | none =>
          rw [Option.none_or, List.find?_singleton]
          split <;> rfl
    · rw [Db.achievement?] at absent
      rw [Db.achievement?, List.find?_append, absent]
      simp [newAchievement]

theorem enqueue_idle (db : Db) (userId : Pk) (event : AchievementEvent) :
    Idle db (enqueue db userId event) := by
  unfold enqueue
  split
  · exact .refl db
  · split
    · exact .beside ⟨rfl, rfl, rfl⟩ rfl rfl
    · exact .refl db

theorem achievement?_some
    (found : db.achievement? userId definitionId = some row) :
    row ∈ db.achievements ∧ row.userId = userId ∧
      row.definitionId = definitionId := by
  have keys := List.find?_some found
  exact ⟨List.mem_of_find?_eq_some found, of_decide_eq_true keys⟩

theorem operation?_some {key : Digest} {receipt : AchievementOperation}
    (found : db.operation? key = some receipt) :
    receipt ∈ db.operations ∧ receipt.key = key := by
  have same := List.find?_some found
  exact ⟨List.mem_of_find?_eq_some found, of_decide_eq_true same⟩

theorem saved_award (unique : (db.achievements.map UserAchievement.pk).Nodup)
    (found : db.achievement? userId definitionId = some entitlement)
    (sameUser : row.userId = entitlement.userId)
    (sameDefinition : row.definitionId = entitlement.definitionId)
    (achievements : next.achievements =
        Rows.modify UserAchievement.pk entitlement.pk (fun _ => row)
          db.achievements) :
    next.award userId definitionId = row.award ∧ ∀ otherUser otherDefinition,
        (otherUser, otherDefinition) ≠ (userId, definitionId) →
        next.award otherUser otherDefinition =
          db.award otherUser otherDefinition := by
  obtain ⟨member, isUser, isDefinition⟩ := achievement?_some found
  have finds :=
    saved_achievement? unique member sameUser sameDefinition achievements
  refine ⟨?_, ?_⟩
  · rw [Db.award, finds, found]
    simp
  · intro otherUser otherDefinition different
    rw [Db.award, Db.award, finds]
    cases isOther : db.achievement? otherUser otherDefinition with
    | none => rfl
    | some old =>
        obtain ⟨oldMember, oldUser, oldDefinition⟩ := achievement?_some isOther
        have isNot : old.pk ≠ entitlement.pk := by
          intro same
          rw [Rows.eq_of_key unique oldMember member same, isUser] at oldUser
          rw [Rows.eq_of_key unique oldMember member same, isDefinition]
            at oldDefinition
          apply different
          rw [oldUser, oldDefinition]
        simp [isNot]

theorem remember_given
    {moved : Db} {request : GrantRequest} {tier : AchievementTier}
    {key : Digest} {entitlementId : Pk} {outcome : Outcome}
    {eventId : Option Pk} (ground : SameGround db moved) (award :
      moved.award request.userId request.definitionId =
        (db.award request.userId request.definitionId).given
          request.isManual tier)
    (others : ∀ userId definitionId,
        (userId, definitionId) ≠ (request.userId, request.definitionId) →
        moved.award userId definitionId = db.award userId definitionId)
    (operations : moved.operations = db.operations)
    (remembered : (Except.ok
        (remember moved key (grantDigest db request tier) entitlementId
          outcome eventId now) :
        Except Failure (Db × Reply)) = .ok (next, reply)) :
    Given db request tier key next := by
  cases remembered
  exact .given
      { key := key
        requestDigest := grantDigest db request tier
        entitlementId := entitlementId
        eventId := eventId
        outcome := outcome
        recordedAt := now }
      ⟨rfl, rfl⟩ ⟨ground.catalog, ground.hasUser, ground.digest⟩ award
      others (congrArg (· ++ [_]) operations)

/-- A new request moves its award by the rule, and leaves its receipt. -/
theorem grantNew_given
    {request : GrantRequest} {tier : AchievementTier} {key : Digest}
    {occurredAt : Timestamp} (keyed : Keyed db) (accepted :
      grantNew db request tier key (grantDigest db request tier) occurredAt
          now =
        .ok (next, reply)) :
    Given db request tier key next := by
  obtain ⟨opening, found⟩ :=
    getOrCreate_idle db request.userId request.definitionId
  have openedKeyed := (getOrCreate_writes true db request.userId
      request.definitionId).1.keyed keyed
  unfold grantNew at accepted
  generalize getOrCreate db request.userId request.definitionId = created
    at accepted opening found openedKeyed
  obtain ⟨opened, entitlement⟩ := created
  obtain ⟨_, _, accepted⟩ := bind_ok.mp accepted
  have before := opening.awards request.userId request.definitionId
  have own : opened.award request.userId request.definitionId =
        entitlement.award := by
    rw [Db.award, found]
    rfl
  split at accepted
  · rename_i suppressed
    refine remember_given opening.ground ?_
        (fun userId definitionId _ => opening.awards userId definitionId)
        opening.operations accepted
    rw [← before, own]
    exact (if_pos suppressed).symm
  rename_i unblocked
  split at accepted
  · rename_i lower
    refine remember_given opening.ground ?_
        (fun userId definitionId _ => opening.awards userId definitionId)
        opening.operations accepted
    have isReached : entitlement.award.reaches tier = true := lower
    rw [← before, own, Award.given]
    simp [isReached]
  rename_i rises
  obtain ⟨recorded, inserted, accepted⟩ := bind_ok.mp accepted
  have shape := insertEvent_ok inserted
  subst shape
  have enqueued := enqueue_idle (save
        { opened with
          serial := opened.serial + 1
          events := opened.events ++
              [grantEvent opened entitlement request tier key occurredAt now] }
        (grantedRow entitlement tier now))
      request.userId
      (grantEvent opened entitlement request tier key occurredAt now)
  obtain ⟨moved, others⟩ := saved_award openedKeyed.unique found
      (Eq.refl (grantedRow entitlement tier now).userId)
      (Eq.refl (grantedRow entitlement tier now).definitionId)
      (Eq.refl (save
          { opened with
            serial := opened.serial + 1
            events := opened.events ++
                [grantEvent opened entitlement request tier key occurredAt
                  now] }
          (grantedRow entitlement tier now)).achievements)
  refine remember_given ?_ ?_ ?_ ?_ accepted
  · exact ⟨enqueued.ground.catalog.trans opening.ground.catalog,
        enqueued.ground.hasUser.trans opening.ground.hasUser,
        enqueued.ground.digest.trans opening.ground.digest⟩
  · refine (enqueued.awards _ _).trans (moved.trans ?_)
    rw [← before, own]
    exact ((if_neg unblocked).trans (if_neg rises)).symm
  · intro userId definitionId different
    exact (enqueued.awards _ _).trans
        ((others userId definitionId different).trans
          (opening.awards userId definitionId))
  · exact enqueued.operations.trans opening.operations

theorem grant_given {request : GrantRequest} (keyed : Keyed db)
    (accepted : grant db request now = .ok (next, reply)) :
    ∃ tier key,
      Admitted db request tier key ∧ Given db request tier key next := by
  unfold grant at accepted
  obtain ⟨occurredAt, _, accepted⟩ := bind_ok.mp accepted
  obtain ⟨_, _, accepted⟩ := bind_ok.mp accepted
  obtain ⟨tier, tiers, accepted⟩ := bind_ok.mp accepted
  obtain ⟨key, keys, accepted⟩ := bind_ok.mp accepted
  obtain ⟨found, repeats, accepted⟩ := bind_ok.mp accepted
  have admitted : Admitted db request tier key := by
    refine ⟨?_, ?_⟩
    · unfold grantedTier at tiers
      obtain ⟨definition, _, tiers⟩ := bind_ok.mp tiers
      obtain ⟨_, _, tiers⟩ := bind_ok.mp tiers
      obtain ⟨_, _, tiers⟩ := bind_ok.mp tiers
      obtain ⟨other, looked, tiers⟩ := bind_ok.mp tiers
      obtain ⟨_, _, tiers⟩ := bind_ok.mp tiers
      obtain ⟨_, _, tiers⟩ := bind_ok.mp tiers
      cases tiers
      exact required_ok.mp looked
    · obtain ⟨_, _, keys⟩ := bind_ok.mp keys
      exact (pure_ok.mp keys).symm
  refine ⟨tier, key, admitted, ?_⟩
  split at accepted
  · rename_i receipt
    unfold repeated at repeats
    split at repeats
    · simp at repeats
    · rename_i other looked
      split at repeats
      · rename_i sameRequest
        cases repeats
        obtain ⟨member, sameKey⟩ := operation?_some looked
        have again : next = db := by
          split at accepted <;> cases accepted <;> rfl
        exact .repeated receipt member ⟨sameKey, sameRequest⟩ again
      · simp at repeats
  · exact grantNew_given keyed accepted

/-- What a successful `revoke` can have done. -/
inductive Revoked (db : Db) (request : RevokeRequest) (next : Db) : Prop where
  | repeated (same : next = db)
  | revoked (receipt : AchievementOperation) (key : receipt.key = db.digest
            (.operation request.userId request.definitionId "revoke"
              request.operationId))
      (ground : SameGround db next)
      (kept : ∀ userId definitionId, Award.Kept (db.award userId definitionId)
            (next.award userId definitionId))
      (operations : next.operations = db.operations ++ [receipt])

theorem revoke_revoked {request : RevokeRequest} (keyed : Keyed db)
    (accepted : revoke db request now = .ok (next, reply)) :
    Revoked db request next := by
  unfold revoke at accepted
  obtain ⟨actor, _, accepted⟩ := bind_ok.mp accepted
  obtain ⟨_, _, accepted⟩ := bind_ok.mp accepted
  obtain ⟨definition, looked, accepted⟩ := bind_ok.mp accepted
  obtain ⟨key, keys, accepted⟩ := bind_ok.mp accepted
  obtain ⟨found, _, accepted⟩ := bind_ok.mp accepted
  have isKey : key = db.digest
          (.operation request.userId request.definitionId "revoke"
            request.operationId) := by
    obtain ⟨_, _, keys⟩ := bind_ok.mp keys
    exact (pure_ok.mp keys).symm
  split at accepted
  · cases accepted
    exact .repeated rfl
  unfold revokeNew at accepted
  obtain ⟨entitlement, finds, accepted⟩ := bind_ok.mp accepted
  have isEntitlement := required_ok.mp finds
  obtain ⟨_, _, accepted⟩ := bind_ok.mp accepted
  split at accepted
  · cases accepted
    exact .revoked _ isKey ⟨rfl, rfl, rfl⟩ (fun _ _ => .refl _) rfl
  obtain ⟨proof, _, accepted⟩ := bind_ok.mp accepted
  obtain ⟨recorded, inserted, accepted⟩ := bind_ok.mp accepted
  cases accepted
  have shape := insertEvent_ok inserted
  subst shape
  obtain ⟨moved, others⟩ := saved_award keyed.unique isEntitlement
      (Eq.refl (revokedRow entitlement now).userId)
      (Eq.refl (revokedRow entitlement now).definitionId)
      (Eq.refl (save
          { db with
            serial := db.serial + 1
            events := db.events ++
                [revokeEvent db definition entitlement request actor proof
                  key now] }
          (revokedRow entitlement now)).achievements)
  refine .revoked _ isKey ⟨rfl, rfl, rfl⟩ ?_ rfl
  intro userId definitionId
  by_cases same : (userId, definitionId) = (request.userId, definition.pk)
  · obtain ⟨rfl, rfl⟩ := Prod.mk.inj same
    refine ⟨fun _ => ?_, .inl ?_⟩
    · exact congrArg Award.autoGrantBlocked moved
    · exact congrArg Award.autoGrantBlocked moved
  · have kept := others userId definitionId same
    exact kept ▸ .refl _

end Grants

/-- What one service does to the awards and the receipts. -/
inductive Service (db next : Db) : Prop where
  | idle (idle : Idle db next)
  | given {request : GrantRequest} {tier : AchievementTier} {key : Digest}
      (admitted : Grants.Admitted db request tier key)
      (given : Grants.Given db request tier key next)
  | revoked {request : RevokeRequest} (revoked : Grants.Revoked db request next)

/-- The services of one call, one after the other. -/
def Services : Db → Db → Prop :=
  Relation.ReflTransGen Service

namespace Services

theorem refl : Services db db :=
  Relation.ReflTransGen.refl

theorem single (service : Service db next) : Services db next :=
  Relation.ReflTransGen.single service

theorem trans
    {middle : Db} (early : Services db middle) (late : Services middle next) :
    Services db next :=
  Relation.ReflTransGen.trans early late

/-- What every service keeps is kept by services. -/
theorem invariant (holds : Db → Prop)
    (kept : ∀ db next, Service db next → holds db → holds next)
    (services : Services db next) (initially : holds db) :
    holds next := by
  induction services with
  | refl => exact initially
  | tail _ service inductionHypothesis =>
      exact kept _ _ service inductionHypothesis

end Services

theorem act_service
    (act : Act automatic db next) (keyed : Keyed db) : Service db next := by
  cases act with
  | granted request now reply permitted accepted =>
      obtain ⟨tier, key, admitted, given⟩ := Grants.grant_given keyed accepted
      exact .given admitted given
  | revoked request now reply manual accepted =>
      exact .revoked (Grants.revoke_revoked keyed accepted)
  | disputed request now accepted =>
      exact .idle (Grants.flagDisputed_idle keyed accepted)
  | beside ground serial achievements events operations =>
      exact .idle (.beside ground achievements operations)

/-- Whatever a call does is done by services. -/
theorem acts_services
    (acts : Acts automatic db next) (keyed : Keyed db) : Services db next := by
  induction acts with
  | refl => exact .refl
  | tail early act inductionHypothesis =>
      have between := (acts_writes early keyed).keyed keyed
      exact inductionHypothesis.trans (.single (act_service act between))

end TicketSandbox.Achievements
