import TicketSandbox.Achievements.EventKeys
import TicketSandbox.Achievements.EventLog

namespace TicketSandbox.Achievements

/-!
# Requests that are sent again

A grant or a revocation that was accepted leaves a receipt, and receipts are
only ever added.  The same request, sent again at any later time, changes
nothing and is answered from its receipt.
-/

open Raises
open Runs
open Sandbox (Pk Timestamp strip)
open Grants

/-- Automatic grants of the entitlement are blocked. -/
def Db.IsShut (db : Db) (entitlementId : Pk) : Prop :=
  ∃ row ∈ db.achievements, row.pk = entitlementId ∧ row.autoGrantBlocked = true

/-- The request is an automatic one, and these are blocked. -/
def Grants.GrantRequest.IsShut
    (request : GrantRequest) (db : Db) (entitlementId : Pk) : Prop :=
  request.isManual = false ∧ db.IsShut entitlementId

/-- What staff has revoked stays closed to automatic grants. -/
theorem Write.shut
    {automatic : Bool} {db next : Db} {entitlementId : Pk} (keyed : Keyed db)
    (write : Write automatic db next) (shut : db.IsShut entitlementId) :
    next.IsShut entitlementId := by
  obtain ⟨old, isOld, isId, isBlocked⟩ := shut
  cases write with
  | elsewhere _ achievements _ =>
      exact ⟨old, achievements ▸ isOld, isId, isBlocked⟩
  | created _ _ _ _ achievements _ =>
      exact ⟨old, achievements ▸ List.mem_append_left _ isOld, isId, isBlocked⟩
  | recorded entitlement row _ member _ _ entry _ achievements _ =>
      unfold Db.IsShut
      rw [achievements]
      by_cases same : old.pk = entitlement.pk
      · obtain rfl := Rows.eq_of_key keyed.unique isOld member same
        refine ⟨row, Rows.mem_modify.mpr ⟨old, isOld, .inl ⟨rfl, rfl⟩⟩,
          entry.identity.1.trans isId, ?_⟩
        cases entry with
        | granted => exact isBlocked
        | revoked => rfl
        | disputed => exact isBlocked
      · exact ⟨old, Rows.mem_modify.mpr ⟨old, isOld, .inr ⟨same, rfl⟩⟩, isId,
          isBlocked⟩

theorem Writes.shut
    {automatic : Bool} {db next : Db} {entitlementId : Pk} (keyed : Keyed db)
    (writes : Writes automatic db next) (shut : db.IsShut entitlementId) :
    next.IsShut entitlementId :=
  (writes.invariant (fun state => Keyed state ∧ state.IsShut entitlementId)
    (fun _ _ write held => ⟨write.keyed held.1, write.shut held.1 held.2⟩)
    ⟨keyed, shut⟩).2

/-- Receipts are only added, on the same ground. -/
structure Grown (db next : Db) : Prop where
  ground : SameGround db next
  receipts : db.operations <+: next.operations

namespace Grown

variable {db middle next : Db} {key : Digest} {receipt : AchievementOperation}

theorem refl (db : Db) : Grown db db :=
  ⟨.refl db, List.prefix_refl _⟩

theorem trans (early : Grown db middle) (late : Grown middle next) :
    Grown db next :=
  ⟨early.ground.trans late.ground, early.receipts.trans late.receipts⟩

theorem added (ground : SameGround db next)
    (operations : next.operations = db.operations ++ [receipt]) :
    Grown db next :=
  ⟨ground, ⟨[receipt], operations.symm⟩⟩

theorem ofService (service : Service db next) : Grown db next := by
  cases service with
  | idle idle =>
      exact ⟨idle.ground, ⟨[], by rw [idle.operations, List.append_nil]⟩⟩
  | given _ given =>
      cases given with
      | repeated _ _ _ same =>
          rw [same]
          exact .refl db
      | given _ _ ground _ _ operations => exact .added ground operations
  | revoked revoked =>
      cases revoked with
      | repeated same =>
          rw [same]
          exact .refl db
      | revoked _ _ ground _ operations => exact .added ground operations

theorem run {permitted : Db → Call → Prop} {calls : List Call}
    (keyed : Keyed db) (run : Run Db.step? permitted db calls next) :
    Grown db next ∧
      ∀ entitlementId, db.IsShut entitlementId → next.IsShut entitlementId := by
  have all : Keyed next ∧ Grown db next ∧
      ∀ entitlementId, db.IsShut entitlementId → next.IsShut entitlementId := by
    refine run.invariant (fun state => Keyed state ∧ Grown db state ∧
        ∀ entitlementId,
          db.IsShut entitlementId → state.IsShut entitlementId) ?_
      ⟨keyed, .refl db, fun _ shut => shut⟩
    rintro state call last _ stepped ⟨held, grown, shut⟩
    cases stepped
    have writes := call_writes call held
    refine ⟨writes.keyed held, grown.trans ?_,
      fun entitlementId was => writes.shut held (shut entitlementId was)⟩
    exact (acts_services (call_acts state call) held).invariant (Grown state)
      (fun _ _ service before => before.trans (.ofService service))
      (.refl state)
  exact all.2

theorem finds
    (grown : Grown db next) (found : db.operation? key = some receipt) :
    next.operation? key = some receipt :=
  grown.receipts.find?_eq_some found

end Grown

namespace Grants

variable {db base middle last : Db} {calls : List Call} {now again : Timestamp}
  {key requestDigest : Digest} {reply : Reply} {eventId : Option Pk}
  {entitlementId : Pk}

/-- The receipt that a repeated request finds. -/
def Answers (db : Db) (key requestDigest : Digest) (entitlementId : Pk)
    (eventId : Option Pk) : Prop :=
  ∃ receipt, db.operation? key = some receipt ∧
    receipt.requestDigest = requestDigest ∧
    receipt.entitlementId = entitlementId ∧ receipt.eventId = eventId

theorem remember_answers {outcome : Outcome} (absent : db.operation? key = none)
    (same : base.operations = db.operations) (remembered :
      remember base key requestDigest entitlementId outcome eventId now =
        (middle, reply)) :
    Answers middle key requestDigest reply.entitlementId reply.eventId := by
  cases remembered
  refine
    ⟨⟨key, requestDigest, entitlementId, eventId, outcome, now⟩, ?_, rfl, rfl,
      rfl⟩
  rw [Db.operation?, same, List.find?_append, ← Db.operation?, absent]
  simp

theorem grantNew_answers
    {request : GrantRequest} {tier : AchievementTier} {occurredAt : Timestamp}
    (absent : db.operation? key = none) (accepted :
      grantNew db request tier key requestDigest occurredAt now =
        .ok (middle, reply)) :
    Answers middle key requestDigest reply.entitlementId reply.eventId := by
  unfold grantNew at accepted
  have opening := (getOrCreate_idle db request.userId request.definitionId).1
  revert opening accepted
  generalize getOrCreate db request.userId request.definitionId = pair
  obtain ⟨opened, entitlement⟩ := pair
  intro accepted opening
  obtain ⟨_, _, accepted⟩ := bind_ok.mp accepted
  split at accepted
  · exact remember_answers absent opening.operations (Except.ok.inj accepted)
  split at accepted
  · exact remember_answers absent opening.operations (Except.ok.inj accepted)
  obtain ⟨recorded, inserted, accepted⟩ := bind_ok.mp accepted
  have shape := insertEvent_ok inserted
  subst shape
  refine remember_answers absent ?_ (Except.ok.inj accepted)
  exact (enqueue_idle _ _ _).operations.trans opening.operations

theorem revokeNew_answers
    {definition : AchievementDefinition} {request : RevokeRequest}
    {actor : Actor} (absent : db.operation? key = none) (accepted :
      revokeNew db definition request actor key requestDigest now =
        .ok (middle, reply)) :
    Answers middle key requestDigest reply.entitlementId reply.eventId := by
  unfold revokeNew at accepted
  obtain ⟨entitlement, _, accepted⟩ := bind_ok.mp accepted
  obtain ⟨_, _, accepted⟩ := bind_ok.mp accepted
  split at accepted
  · exact remember_answers absent rfl (Except.ok.inj accepted)
  obtain ⟨proof, _, accepted⟩ := bind_ok.mp accepted
  obtain ⟨recorded, inserted, accepted⟩ := bind_ok.mp accepted
  have shape := insertEvent_ok inserted
  subst shape
  refine remember_answers absent ?_ (Except.ok.inj accepted)
  rfl

theorem repeated_ok {found : Option AchievementOperation}
    (accepted : repeated db key requestDigest = .ok found) :
    db.operation? key = found ∧
      ∀ receipt ∈ found, receipt.requestDigest = requestDigest := by
  unfold repeated at accepted
  split at accepted
  · rename_i absent
    cases accepted
    refine ⟨absent, fun receipt member => ?_⟩
    cases member
  · rename_i receipt looked
    split at accepted
    · rename_i same
      cases accepted
      exact ⟨looked, by simpa using same⟩
    · cases accepted

theorem Answers.repeated
    (answers : Answers db key requestDigest entitlementId eventId) :
    ∃ receipt, Grants.repeated db key requestDigest = .ok (some receipt) ∧
      receipt.entitlementId = entitlementId ∧ receipt.eventId = eventId := by
  obtain ⟨receipt, found, same, shows⟩ := answers
  exact ⟨receipt, by rw [Grants.repeated, found]; exact if_pos same, shows⟩

theorem Answers.grown
    (answers : Answers middle key requestDigest entitlementId eventId)
    (grown : Grown middle last) :
    Answers last key requestDigest entitlementId eventId := by
  obtain ⟨receipt, found, shows⟩ := answers
  exact ⟨receipt, grown.finds found, shows⟩

theorem admitGrant_later
    {request : GrantRequest} {occurredAt : Timestamp} (later : now ≤ again)
    (admitted : admitGrant request now = .ok occurredAt) :
    admitGrant request again = .ok occurredAt := by
  by_cases manual : request.isManual = true
  all_goals
    simp only [admitGrant, manual, if_true, Bool.false_eq_true, if_false]
      at admitted ⊢
    obtain ⟨staff, allowed, admitted⟩ := bind_ok.mp admitted
    refine bind_ok.mpr ⟨staff, allowed, ?_⟩
    revert admitted
    cases request.occurredAt with
    | missing => exact id
    | naive => exact id
    | aware instant =>
        intro admitted
        obtain ⟨_, past, isDate⟩ := bind_ok.mp admitted
        refine bind_ok.mpr ⟨(), ensure_ok.mpr ?_, isDate⟩
        exact le_trans (ensure_ok.mp past) later

theorem act_grown (act : Act false db middle) (keyed : Keyed db)
    (run : Run Db.step? anything middle calls last) :
    Grown db middle ∧ Grown middle last ∧
      ∀ entitlementId, db.IsShut entitlementId → last.IsShut entitlementId := by
  have writes := acts_writes (.single act) keyed
  obtain ⟨late, shut⟩ := Grown.run (writes.keyed keyed) run
  exact ⟨.ofService (act_service act keyed), late,
    fun entitlementId was => shut entitlementId (writes.shut keyed was)⟩

theorem isBlocked_iff {receipt : AchievementOperation} :
    isBlocked db receipt = true ↔ db.IsShut receipt.entitlementId := by
  simp [isBlocked, Db.IsShut]

/--
A grant that was accepted, sent again after any other calls: nothing changes,
and it is answered with the first event, or as suppressed exactly when it is an
automatic one and these are blocked by then.
-/
theorem grant_replayed {request : GrantRequest} (keyed : Keyed db)
    (accepted : grant db request now = .ok (middle, reply))
    (run : Run Db.step? anything middle calls last) (later : now ≤ again) :
    ∃ second, grant last request again = .ok (last, second) ∧
      second.entitlementId = reply.entitlementId ∧
      (¬ request.IsShut last reply.entitlementId ∧
          second.outcome = .duplicate ∧ second.eventId = reply.eventId ∨
        request.IsShut last reply.entitlementId ∧
          second.outcome = .suppressed ∧ second.eventId = none) := by
  obtain ⟨early, late, shut⟩ :=
    act_grown (.granted request now reply (by simp) accepted) keyed run
  have ground := (early.trans late).ground
  unfold grant at accepted
  obtain ⟨occurredAt, admitted, accepted⟩ := bind_ok.mp accepted
  obtain ⟨_, locked, accepted⟩ := bind_ok.mp accepted
  obtain ⟨tier, tiers, accepted⟩ := bind_ok.mp accepted
  obtain ⟨key, keys, accepted⟩ := bind_ok.mp accepted
  obtain ⟨found, repeats, accepted⟩ := bind_ok.mp accepted
  obtain ⟨looked, same⟩ := repeated_ok repeats
  obtain ⟨eventId, answers, first⟩ : ∃ eventId,
      Answers middle key (grantDigest db request tier) reply.entitlementId
        eventId ∧
      (eventId = reply.eventId ∨ request.IsShut last reply.entitlementId) := by
    cases found with
    | none => exact ⟨reply.eventId, grantNew_answers looked accepted, .inl rfl⟩
    | some receipt =>
        refine ⟨receipt.eventId, ?_⟩
        by_cases blocked :
            ¬ request.isManual = true ∧ isBlocked db receipt = true
        · simp only [if_pos blocked] at accepted
          cases accepted
          exact ⟨⟨receipt, looked, same receipt rfl, rfl, rfl⟩,
            .inr ⟨by simpa using blocked.1,
              shut _ (isBlocked_iff.mp blocked.2)⟩⟩
        · simp only [if_neg blocked] at accepted
          cases accepted
          exact ⟨⟨receipt, looked, same receipt rfl, rfl, rfl⟩, .inl rfl⟩
  obtain ⟨receipt, repeats, isEntitlement, isEvent⟩ :=
    (answers.grown late).repeated
  have isGrant (second : Reply) (answered :
        (if ¬ request.isManual ∧ isBlocked last receipt then
          Except.ok (last,
            { entitlementId := receipt.entitlementId
              outcome := .suppressed
              eventId := none })
        else
          .ok (last, duplicateReply receipt)) =
          (.ok (last, second) : Except Failure (Db × Reply))) :
      grant last request again = .ok (last, second) := by
    refine bind_ok.mpr ⟨occurredAt, admitGrant_later later admitted, ?_⟩
    refine bind_ok.mpr ⟨(), ?_, bind_ok.mpr ⟨tier, ?_, ?_⟩⟩
    · rw [lockUser, ground.hasUser]
      exact locked
    · simp only [grantedTier, Db.definition?, Db.tier?, ground.catalog]
      exact tiers
    refine bind_ok.mpr ⟨key, ?_, bind_ok.mpr ⟨some receipt, ?_, answered⟩⟩
    · rw [operationKey, ground.digest]
      exact keys
    · rw [grantDigest, ground.digest]
      exact repeats
  have isShut : (¬ request.isManual = true ∧ isBlocked last receipt = true) ↔
      request.IsShut last reply.entitlementId := by
    rw [Bool.not_eq_true, isBlocked_iff, isEntitlement, GrantRequest.IsShut]
  by_cases isSuppressed : ¬ request.isManual ∧ isBlocked last receipt
  · exact ⟨_, isGrant _ (if_pos isSuppressed), isEntitlement,
      .inr ⟨isShut.mp isSuppressed, rfl, rfl⟩⟩
  · have isOpen : ¬ request.IsShut last reply.entitlementId :=
      fun closed => isSuppressed (isShut.mpr closed)
    exact ⟨_, isGrant _ (if_neg isSuppressed), isEntitlement,
      .inl ⟨isOpen, rfl, isEvent.trans (first.resolve_right isOpen)⟩⟩

/-- A grant that is sent again after a revocation. -/
theorem grant_replayed_revoked :
    ∃ middle reply second,
      grant Db.seeded (speedGrant "bronze" ['a']) 1 = .ok (middle, reply) ∧
        grant (middle.call (.revoke speedRevoke 4)).1
            (speedGrant "bronze" ['a']) 9 =
          .ok ((middle.call (.revoke speedRevoke 4)).1, second) := by
  obtain ⟨⟨middle, reply⟩, accepted⟩ :
      ∃ result, grant Db.seeded (speedGrant "bronze" ['a']) 1 = .ok result :=
    ⟨_, rfl⟩
  obtain ⟨second, answered, _⟩ :=
    grant_replayed (Folded.empty _ _ _ _).keyed accepted
      (.single trivial rfl) (by decide : (1 : Timestamp) ≤ 9)
  exact ⟨middle, reply, second, accepted, answered⟩

/-- A revocation that was accepted, sent again after any other calls: nothing
changes, and it is answered from its receipt. -/
theorem revoke_replayed {request : RevokeRequest} (keyed : Keyed db)
    (accepted : revoke db request now = .ok (middle, reply))
    (run : Run Db.step? anything middle calls last) :
    ∃ second, revoke last request again = .ok (last, second) ∧
      second.entitlementId = reply.entitlementId ∧
      second.outcome = .duplicate ∧ second.eventId = reply.eventId := by
  obtain ⟨early, late, _⟩ :=
    act_grown (.revoked request now reply rfl accepted) keyed run
  have ground := (early.trans late).ground
  unfold revoke at accepted
  obtain ⟨actor, staff, accepted⟩ := bind_ok.mp accepted
  obtain ⟨_, locked, accepted⟩ := bind_ok.mp accepted
  obtain ⟨definition, finds, accepted⟩ := bind_ok.mp accepted
  obtain ⟨key, keys, accepted⟩ := bind_ok.mp accepted
  obtain ⟨found, repeats, accepted⟩ := bind_ok.mp accepted
  obtain ⟨looked, same⟩ := repeated_ok repeats
  have answers : Answers middle key
        (db.digest (.revokeRequest actor.pk (strip request.reason)))
        reply.entitlementId reply.eventId := by
    cases found with
    | none => exact revokeNew_answers looked accepted
    | some receipt =>
        cases accepted
        exact ⟨receipt, looked, same receipt rfl, rfl, rfl⟩
  obtain ⟨receipt, repeats, isEntitlement, isEvent⟩ :=
    (answers.grown late).repeated
  refine ⟨duplicateReply receipt, ?_, isEntitlement, rfl, isEvent⟩
  refine bind_ok.mpr ⟨actor, staff, bind_ok.mpr ⟨(), ?_, ?_⟩⟩
  · rw [lockUser, ground.hasUser]
    exact locked
  refine bind_ok.mpr ⟨definition, ?_, bind_ok.mpr ⟨key, ?_, ?_⟩⟩
  · rw [Db.definition?, ground.catalog]
    exact finds
  · rw [operationKey, ground.digest]
    exact keys
  · refine bind_ok.mpr ⟨some receipt, ?_, rfl⟩
    rw [ground.digest]
    exact repeats

/-- A revocation that is sent again after a new grant was suppressed. -/
theorem revoke_replayed_suppressed :
    ∃ db middle reply second, revoke db speedRevoke 4 = .ok (middle, reply) ∧
        revoke (middle.call (.grant (speedGrant "gold" ['c']) 6)).1
            speedRevoke 9 =
          .ok
            ((middle.call (.grant (speedGrant "gold" ['c']) 6)).1,
              second) := by
  have seeded : Folded Db.seeded := .empty _ _ _ _
  have granted := seeded.call (.grant (speedGrant "bronze" ['a']) 1)
  obtain ⟨⟨middle, reply⟩, accepted⟩ : ∃ result,
      revoke (Db.seeded.call (.grant (speedGrant "bronze" ['a']) 1)).1
        speedRevoke 4 = .ok result :=
    ⟨_, rfl⟩
  obtain ⟨second, answered, _⟩ :=
    revoke_replayed granted.keyed accepted (.single trivial rfl)
  exact ⟨_, middle, reply, second, accepted, answered⟩

end Grants

end TicketSandbox.Achievements
