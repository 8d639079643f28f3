import TicketSandbox.Achievements.EvaluatorFacts
import TicketSandbox.Achievements.EventKeys

namespace TicketSandbox.Achievements

/-!
# Dry runs of a reconciliation

A dry run decides by the award of the user what a grant would do.  The grant of
the reconciliation that follows does just that, because its disputes move no
award and an earlier receipt of it is honoured.
-/

open Raises
open Sandbox (Pk Timestamp Text)
open Grants Reconciliation

/-- The events that give or raise a tier. -/
def Db.proofs (db : Db) : List AchievementEvent :=
  db.events.filter isProof

/-- What a dry run predicts by an award. -/
def Award.foretell (award : Award) (tier : AchievementTier) : Outcome :=
  if award.autoGrantBlocked then .suppressed
  else if award.reaches tier then .noOp
  else if award.activeTier.isSome then .upgrade
  else .grant

theorem predict_eq
    (db : Db) (userId definitionId : Pk) (tier : AchievementTier) :
    predict (db.achievement? userId definitionId) tier =
      (db.award userId definitionId).foretell tier := by
  rw [Db.award]
  cases db.achievement? userId definitionId with
  | none => rfl
  | some row => rfl

/-- The action of the event that an outcome comes with. -/
def Outcome.action? : Outcome → Option EventAction
  | .grant => some .grant
  | .upgrade => some .upgrade
  | _ => none

/-- No tier was given or raised, and the award is the same. -/
structure Leaves (db next : Db) (userId definitionId : Pk) : Prop where
  proofs : next.proofs = db.proofs
  award : next.award userId definitionId = db.award userId definitionId

/-- One event was recorded that gives the tier to the entitlement. -/
structure Records
    (db next : Db) (userId definitionId : Pk) (tier : AchievementTier)
    (action : EventAction) (eventId : Option Pk) : Prop where
  recorded : ∃ event row, next.proofs = db.proofs ++ [event] ∧
        event.action = action ∧ event.toTier = some tier ∧
        eventId = some event.pk ∧
        next.achievement? userId definitionId = some row ∧
        event.entitlementId = row.pk
  active : (next.award userId definitionId).activeTier = some tier

/-! ## Disputes -/

variable {db next : Db} {entitlement : UserAchievement}
  {event : AchievementEvent} {now : Timestamp}

namespace Grants

theorem insertEvent_returns (fromTier :
      ∀ tier ∈ event.fromTier, tier.definitionId = entitlement.definitionId)
    (toTier :
      ∀ tier ∈ event.toTier, tier.definitionId = entitlement.definitionId)
    (rises : event.action = .upgrade →
        ∃ old ∈ event.fromTier, ∃ new ∈ event.toTier, old.rank < new.rank)
    (kept : event.action ≠ .revoke) (automatic : event.sourceType ≠ "manual")
    (shape : hasValidShape event = true)
    (unused :
      ∀ other ∈ db.events, other.idempotencyKey ≠ event.idempotencyKey) :
    insertEvent db entitlement none event = .ok
        { db with
          serial := db.serial + 1
          events := db.events ++ [event] } := by
  refine bind_ok.mpr ⟨(), ?_, ?_⟩
  · refine bind_ok.mpr ⟨(), ensure_ok.mpr ⟨fromTier, toTier⟩, ?_⟩
    refine bind_ok.mpr ⟨(), ensure_ok.mpr rises, ?_⟩
    refine bind_ok.mpr ⟨(), ensure_ok.mpr ?_, ?_⟩
    · exact fun revokes => (kept revokes).elim
    · exact ensure_ok.mpr fun manual => (automatic manual).elim
  · exact bind_ok.mpr ⟨(), ensure_ok.mpr ⟨shape, unused⟩, rfl⟩

theorem disputeOne_returns (request : DisputeRequest) (now : Timestamp)
    (db : Db) (own : entitlement.HasOwnTier) :
    ∃ next, disputeOne request now db entitlement = .ok next := by
  unfold disputeOne
  split
  · exact ⟨db, rfl⟩
  · rename_i proof found
    have unused : ∀ event ∈ db.events, event.idempotencyKey ≠
            db.digest (.dispute request.source entitlement.pk) := by
      simp only [disputed?, Option.bind_eq_bind,
        Option.bind_eq_some_iff] at found
      obtain ⟨_, _, _, _, _, _, _, _, _, unused, _⟩ := found
      by_contra used
      simp [used, guard] at unused
    have inserted := @insertEvent_returns db entitlement
        (disputeEvent db request entitlement proof now) own own nofun nofun
        (by simp [disputeEvent]) rfl unused
    exact ⟨_, bind_ok.mpr ⟨_, inserted, rfl⟩⟩

theorem flagDisputed_returns
    (logged : Logged db) (request : DisputeRequest) (now : Timestamp)
    (known : db.hasUser request.userId = true) :
    ∃ next, flagDisputed db request now = .ok next := by
  have rounds : ∀ before, ∀ entitlement ∈ activeOf db request.userId,
        ∃ after, disputeOne request now before entitlement = .ok after :=
    fun before entitlement member =>
      disputeOne_returns request now before
        (logged.tiers entitlement (List.mem_of_mem_filter member))
  obtain ⟨last, returned⟩ := foldlM_returns rounds db
  exact ⟨last, bind_ok.mpr ⟨(), ensure_ok.mpr known, returned⟩⟩

theorem flagDisputed_proofs {request : DisputeRequest}
    (accepted : flagDisputed db request now = .ok next) :
    next.proofs = db.proofs := by
  obtain ⟨_, _, accepted⟩ := bind_ok.mp accepted
  refine foldlM_invariant (fun state : Db => state.proofs = db.proofs) ?_ rfl
      accepted
  intro before entitlement _ after held one
  unfold disputeOne at one
  split at one
  · cases one
    exact held
  · obtain ⟨recorded, inserted, one⟩ := bind_ok.mp one
    cases one
    have shape := insertEvent_ok inserted
    subst shape
    refine Eq.trans ?_ held
    exact (List.filter_append ..).trans (List.append_nil _)

end Grants

/-- Disputes leave the awards, the receipts and the given tiers. -/
structure OnlyDisputed (db next : Db) : Prop where
  keyed : Keyed next
  logged : Logged next
  idle : Idle db next
  proofs : next.proofs = db.proofs

namespace OnlyDisputed

theorem refl (keyed : Keyed db) (logged : Logged db) : OnlyDisputed db db :=
  ⟨keyed, logged, .refl db, rfl⟩

theorem trans {first second third : Db} (early : OnlyDisputed first second)
    (late : OnlyDisputed second third) :
    OnlyDisputed first third :=
  ⟨late.keyed, late.logged, early.idle.trans late.idle,
    late.proofs.trans early.proofs⟩

theorem leaves (disputed : OnlyDisputed db next) (userId definitionId : Pk) :
    Leaves db next userId definitionId :=
  ⟨disputed.proofs, disputed.idle.awards userId definitionId⟩

theorem flagDisputed
    (keyed : Keyed db) (logged : Logged db) (request : DisputeRequest)
    (now : Timestamp) (known : db.hasUser request.userId = true) :
    ∃ next, Grants.flagDisputed db request now = .ok next ∧
      OnlyDisputed db next := by
  obtain ⟨next, accepted⟩ := flagDisputed_returns logged request now known
  refine ⟨next, accepted, ?_, ?_, ?_, ?_⟩
  · exact (flagDisputed_writes keyed accepted : Writes true _ _).keyed keyed
  · exact flagDisputed_logged logged accepted
  · exact flagDisputed_idle keyed accepted
  · exact flagDisputed_proofs accepted

/-- Disputing the problems of an award does nothing else. -/
theorem disputeProblems (keyed : Keyed db) (logged : Logged db) (world : World)
    (userId : Pk) (definition : AchievementDefinition) (evaluation : Evaluation)
    (entitlement : Option UserAchievement) (now : Timestamp)
    (known : db.hasUser userId = true) :
    ∃ next, Reconciliation.disputeProblems db world userId definition evaluation
          entitlement now = .ok next ∧
        OnlyDisputed db next := by
  unfold Reconciliation.disputeProblems flagIf
  have first : ∃ flagged,
        (if sandboxProblem db userId definition evaluation = true then
          Grants.flagDisputed db
            { userId := userId
              definitionId := some definition.pk
              source := .text ("sandbox-reconciliation:" ++
                  toString (db.digest (.report evaluation))).toList
              sandboxInvalid := true }
            now
        else
          .ok db) = .ok flagged ∧
          OnlyDisputed db flagged := by
    split
    · exact flagDisputed keyed logged _ now known
    · exact ⟨db, rfl, .refl keyed logged⟩
  obtain ⟨flagged, one, disputed⟩ := first
  have still : flagged.hasUser userId = true := by
    rw [disputed.idle.ground.hasUser]
    exact known
  cases found : currentMetricProblem flagged world.metrics entitlement with
  | none =>
      refine ⟨flagged, bind_ok.mpr ⟨flagged, one, ?_⟩, disputed⟩
      rw [found]
  | some problem =>
      obtain ⟨next, other, more⟩ := flagDisputed disputed.keyed disputed.logged
          { userId := userId
            metricId := some problem.metricId
            definitionId := some definition.pk
            source := .text ("reconciliation:" ++
                toString (db.digest (.problem problem))).toList }
          now still
      refine ⟨next, bind_ok.mpr ⟨flagged, one, ?_⟩, disputed.trans more⟩
      rw [found]
      exact other

end OnlyDisputed

/-! ## The grant -/

namespace Grants

theorem getOrCreate_events (db : Db) (userId definitionId : Pk) :
    (getOrCreate db userId definitionId).1.events = db.events := by
  unfold getOrCreate
  split <;> rfl

variable {userId definitionId : Pk} {reply : Reply} {request : GrantRequest}
  {occurredAt : Timestamp}

theorem unused_key
    (logged : Logged db) (collisionFree : Function.Injective db.digest)
    {action : String} {operationId : Text} (absent : db.operation?
          (db.digest (.operation userId definitionId action operationId)) =
        none) :
    ∀ other ∈ db.events, other.idempotencyKey ≠
        db.digest (.operation userId definitionId action operationId) := by
  intro other member same
  rcases logged.keys other member with ⟨source, about, isKey⟩ |
    ⟨receipt, isReceipt, isKey⟩
  · have keys := collisionFree (isKey.symm.trans same)
    cases keys
  · have unmatched := List.find?_eq_none.mp absent receipt isReceipt
    exact unmatched (decide_eq_true (isKey.trans same))

/-- What a new automatic request does is foretold by the award. -/
structure Foretold
    (db next : Db) (userId definitionId : Pk) (tier : AchievementTier)
    (reply : Reply) : Prop where
  leaves : ((db.award userId definitionId).foretell tier).action? = none →
      Leaves db next userId definitionId
  records : ∀ action ∈ ((db.award userId definitionId).foretell tier).action?,
      reply.outcome = (db.award userId definitionId).foretell tier ∧
        Records db next userId definitionId tier action reply.eventId

theorem foretold_of_settled {tier : AchievementTier} (settled :
      (db.award userId definitionId).autoGrantBlocked = true ∨
        (db.award userId definitionId).reaches tier = true)
    (leaves : Leaves db next userId definitionId) :
    Foretold db next userId definitionId tier reply := by
  refine ⟨fun _ => leaves, fun action given => ?_⟩
  unfold Award.foretell at given
  rcases settled with isBlocked | reached
  · rw [if_pos isBlocked] at given
    cases given
  · rw [if_pos reached] at given
    split at given <;> cases given

theorem grantEvent_returns {tier : AchievementTier} {key : Digest}
    (automatic : request.isManual = false) (fromTier : entitlement.HasOwnTier)
    (toTier : tier.definitionId = entitlement.definitionId)
    (rises : ¬ isNoOp entitlement tier = true)
    (unused : ∀ other ∈ db.events, other.idempotencyKey ≠ key) :
    insertEvent db entitlement none
        (grantEvent db entitlement request tier key occurredAt now) =
      .ok
        { db with
          serial := db.serial + 1
          events := db.events ++
              [grantEvent db entitlement request tier key occurredAt
                now] } := by
  have action :
      (grantEvent db entitlement request tier key occurredAt now).action =
        if entitlement.activeTier.isSome then .upgrade else .grant :=
    rfl
  refine insertEvent_returns fromTier ?_ ?_ ?_ ?_ ?_ unused
  · intro other isTier
    cases isTier
    exact toTier
  · intro isUpgrade
    cases active : entitlement.activeTier with
    | none =>
        rw [action, active] at isUpgrade
        cases isUpgrade
    | some old =>
        exact ⟨old, active, tier, rfl, higher_of_isNoOp rises old active⟩
  · rw [action]
    split <;> nofun
  · exact of_decide_eq_false automatic
  · unfold hasValidShape
    rw [action]
    cases active : entitlement.activeTier with
    | none => simp [grantEvent, active]
    | some old => simp [grantEvent, active]

theorem grantNew_returns
    {tier : AchievementTier} {key requestDigest : Digest} (logged : Logged db)
    (automatic : request.isManual = false) (unsigned : request.actor = none)
    (unversioned : request.expectedRevision = none)
    (own : tier.definitionId = request.definitionId)
    (unused : ∀ other ∈ db.events, other.idempotencyKey ≠ key) :
    ∃ next reply, grantNew db request tier key requestDigest occurredAt now =
        .ok (next, reply) := by
  have created := getOrCreate_idle db request.userId request.definitionId
  have opening := logged.opened request.userId request.definitionId
  have events := getOrCreate_events db request.userId request.definitionId
  unfold grantNew
  generalize getOrCreate db request.userId request.definitionId = found
    at created opening events
  obtain ⟨opened, entitlement⟩ := found
  obtain ⟨member, _, isDefinition⟩ := achievement?_some created.2
  have revision :
      ensureRevision entitlement request.expectedRevision = .ok () := by
    rw [unversioned]
    rfl
  simp only [revision, unsigned]
  by_cases suppressed :
      ¬ request.isManual = true ∧ entitlement.autoGrantBlocked = true
  · rw [if_pos suppressed]
    exact ⟨_, _, rfl⟩
  by_cases reached : isNoOp entitlement tier = true
  · rw [if_neg suppressed, if_pos reached]
    exact ⟨_, _, rfl⟩
  have inserted :=
    @grantEvent_returns opened entitlement now request occurredAt tier key
      automatic (opening.tiers entitlement member)
      (own.trans isDefinition.symm) reached (events ▸ unused)
  rw [if_neg suppressed, if_neg reached, inserted]
  exact ⟨_, _, rfl⟩

theorem records_of_saved
    {opened : Db} {tier : AchievementTier} (keyed : Keyed opened)
    (sameProofs : opened.proofs = db.proofs)
    (found : opened.achievement? userId definitionId = some entitlement)
    (about : event.entitlementId = entitlement.pk)
    (toTier : event.toTier = some tier) (given : isProof event = true)
    (events : next.events = opened.events ++ [event]) (achievements :
      next.achievements = Rows.modify UserAchievement.pk entitlement.pk
          (fun _ => grantedRow entitlement tier now) opened.achievements) :
    Records db next userId definitionId tier event.action (some event.pk) := by
  have finds : next.achievement? userId definitionId =
        some (grantedRow entitlement tier now) := by
    have saves := saved_achievement? keyed.unique (achievement?_some found).1
        (Eq.refl (grantedRow entitlement tier now).userId)
        (Eq.refl (grantedRow entitlement tier now).definitionId)
        achievements userId definitionId
    rw [saves, found]
    simp
  refine ⟨⟨event, grantedRow entitlement tier now, ?_, rfl, toTier, rfl,
    finds, about⟩, ?_⟩
  · rw [Db.proofs, events, List.filter_append, ← sameProofs]
    simp [Db.proofs, given]
  · rw [Db.award, finds]
    rfl

/-- What a new automatic request did is foretold. -/
theorem grantNew_foretold
    {tier : AchievementTier} {key : Digest} (keyed : Keyed db)
    (automatic : request.isManual = false) (accepted :
      grantNew db request tier key (grantDigest db request tier) occurredAt
          now =
        .ok (next, reply)) :
    Foretold db next request.userId request.definitionId tier reply := by
  obtain ⟨opening, found⟩ :=
    getOrCreate_idle db request.userId request.definitionId
  have openedKeyed := (getOrCreate_writes true db request.userId
      request.definitionId).1.keyed keyed
  have events := getOrCreate_events db request.userId request.definitionId
  unfold grantNew at accepted
  generalize getOrCreate db request.userId request.definitionId = created
    at accepted opening found openedKeyed events
  obtain ⟨opened, entitlement⟩ := created
  have own :
      db.award request.userId request.definitionId = entitlement.award := by
    rw [← opening.awards, Db.award, found]
    rfl
  have sameProofs : opened.proofs = db.proofs :=
    congrArg (List.filter isProof) events
  obtain ⟨_, _, accepted⟩ := bind_ok.mp accepted
  split at accepted
  · rename_i suppressed
    cases accepted
    refine foretold_of_settled (.inl (own ▸ suppressed.2)) ⟨sameProofs, ?_⟩
    exact opening.awards _ _
  rename_i unblocked
  split at accepted
  · rename_i reached
    cases accepted
    refine foretold_of_settled (.inr (own ▸ reached)) ⟨sameProofs, ?_⟩
    exact opening.awards _ _
  rename_i rises
  obtain ⟨recorded, inserted, accepted⟩ := bind_ok.mp accepted
  have shape := insertEvent_ok inserted
  subst shape
  cases accepted
  have isOpen :
      (db.award request.userId request.definitionId).autoGrantBlocked =
        false := by
    rw [own]
    simpa [automatic, UserAchievement.award] using unblocked
  have unreached :
      ¬ (db.award request.userId request.definitionId).reaches tier =
        true := by
    rw [own]
    exact rises
  have foretold : (db.award request.userId request.definitionId).foretell tier =
        grantOutcome entitlement := by
    rw [Award.foretell, isOpen, if_neg Bool.false_ne_true,
      if_neg unreached, own]
    rfl
  obtain ⟨_, achievements, enqueued, _⟩ := enqueue_same (save
        { opened with
          serial := opened.serial + 1
          events := opened.events ++
              [grantEvent opened entitlement request tier key occurredAt now] }
        (grantedRow entitlement tier now))
      request.userId
      (grantEvent opened entitlement request tier key occurredAt now)
  have action :
      (grantEvent opened entitlement request tier key occurredAt now).action =
        if entitlement.activeTier.isSome then .upgrade else .grant :=
    rfl
  have isGiven : (grantOutcome entitlement).action? = some
          (grantEvent opened entitlement request tier key occurredAt
            now).action := by
    rw [action, grantOutcome]
    split <;> rfl
  have given :
      isProof (grantEvent opened entitlement request tier key occurredAt now) =
        true := by
    rw [isProof, action]
    split <;> rfl
  refine ⟨fun none => ?_, fun other isOther => ⟨foretold.symm, ?_⟩⟩
  · rw [foretold, isGiven] at none
    cases none
  · rw [foretold, isGiven] at isOther
    cases isOther
    exact records_of_saved openedKeyed sameProofs found rfl rfl given enqueued
        achievements

/-- What an automatic request passes before its receipt is looked for. -/
structure Passes (db : Db) (request : GrantRequest) (now : Timestamp)
    (tier : AchievementTier) (key : Digest) : Prop where
  automatic : request.isManual = false
  unsigned : request.actor = none
  unversioned : request.expectedRevision = none
  dated : ∃ instant, request.occurredAt = .aware instant ∧ instant ≤ now
  known : db.hasUser request.userId = true
  tier : grantedTier db request = .ok tier
  key : operationKey db request.userId request.definitionId "grant"
      request.operationId = .ok key

namespace Passes

variable {tier : AchievementTier} {key : Digest}

theorem admits (passes : Passes db request now tier key) :
    ∃ instant, admitGrant request now = .ok instant := by
  obtain ⟨instant, isAware, past⟩ := passes.dated
  refine ⟨instant, ?_⟩
  simp [admitGrant, passes.automatic, passes.unsigned, isAware, past,
    ensure, bind, Except.bind, pure, Except.pure]

theorem admitted (passes : Passes db request now tier key) :
    Admitted db request tier key := by
  obtain ⟨definition, _, tiers⟩ := bind_ok.mp passes.tier
  obtain ⟨_, _, tiers⟩ := bind_ok.mp tiers
  obtain ⟨_, _, tiers⟩ := bind_ok.mp tiers
  obtain ⟨other, looked, tiers⟩ := bind_ok.mp tiers
  obtain ⟨_, _, tiers⟩ := bind_ok.mp tiers
  obtain ⟨_, _, tiers⟩ := bind_ok.mp tiers
  cases tiers
  obtain ⟨_, _, keys⟩ := bind_ok.mp passes.key
  exact ⟨required_ok.mp looked, (pure_ok.mp keys).symm⟩

variable {receipt : AchievementOperation}

/-- A key that was used with other arguments is a conflict. -/
theorem grant_taken (passes : Passes db request now tier key)
    (found : db.operation? key = some receipt)
    (other : receipt.requestDigest ≠ grantDigest db request tier) :
    grant db request now = .error (.grantConflict
          "operation_id уже использован с другими параметрами.") := by
  obtain ⟨instant, admits⟩ := passes.admits
  have known : lockUser db request.userId = .ok () := ensure_ok.mpr passes.known
  simp [grant, admits, known, passes.tier, passes.key, repeated, found,
    other, bind, Except.bind]

theorem grant_repeated (passes : Passes db request now tier key)
    (found : db.operation? key = some receipt)
    (same : receipt.requestDigest = grantDigest db request tier) :
    ∃ reply, grant db request now = .ok (db, reply) := by
  obtain ⟨instant, admits⟩ := passes.admits
  have known : lockUser db request.userId = .ok () := ensure_ok.mpr passes.known
  simp only [grant, admits, known, passes.tier, passes.key, repeated, found,
    same, bind, Except.bind, if_true]
  split
  · exact ⟨_, rfl⟩
  · exact ⟨_, rfl⟩

theorem grant_foretold
    (passes : Passes db request now tier key) (keyed : Keyed db)
    (logged : Logged db) (honoured : Honoured db) (repeats :
      ∀ receipt, db.operation? key = some receipt →
        receipt.requestDigest = grantDigest db request tier) :
    ∃ next reply, grant db request now = .ok (next, reply) ∧
      Foretold db next request.userId request.definitionId tier reply := by
  obtain ⟨instant, admits⟩ := passes.admits
  have known : lockUser db request.userId = .ok () := ensure_ok.mpr passes.known
  have admitted := passes.admitted
  cases found : db.operation? key with
  | some receipt =>
      obtain ⟨member, sameKey⟩ := operation?_some found
      have settled := honoured.honoured receipt member request tier key admitted
          ⟨sameKey, repeats receipt found⟩
      obtain ⟨reply, accepted⟩ :=
        passes.grant_repeated found (repeats receipt found)
      exact ⟨db, reply, accepted, foretold_of_settled settled ⟨rfl, rfl⟩⟩
  | none =>
      have isKey := admitted.key
      have own : tier.definitionId = request.definitionId := by
        have matched := List.find?_some admitted.tier
        exact (of_decide_eq_true matched).1
      have unused : ∀ other ∈ db.events, other.idempotencyKey ≠ key := by
        rw [isKey]
        exact unused_key logged honoured.collisionFree (isKey ▸ found)
      obtain ⟨next, reply, accepted⟩ :=
        @grantNew_returns db now request instant tier key
          (grantDigest db request tier) logged passes.automatic passes.unsigned
          passes.unversioned own unused
      refine ⟨next, reply, ?_,
        grantNew_foretold keyed passes.automatic accepted⟩
      rw [← accepted]
      simp [grant, admits, known, passes.tier, passes.key, repeated, found,
        bind, Except.bind]

end Passes

end Grants

end TicketSandbox.Achievements
