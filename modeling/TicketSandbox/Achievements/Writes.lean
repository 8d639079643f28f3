import TicketSandbox.Achievements.Acts

namespace TicketSandbox.Achievements

/-!
# What the calls write

Every call is a sequence of small writes: a new entitlement, an event together
with the entitlement it changes, and rows of the other tables.  Automatic
calls never revoke, and never grant what staff has revoked.
-/

open Raises
open Sandbox (Pk Timestamp Text)
open Grants Reconciliation Events

/-- The event of an entitlement, and the entitlement that is saved with it. -/
inductive Entry (automatic : Bool) (entitlement : UserAchievement)
    (event : AchievementEvent) : UserAchievement → Prop where
  | granted (tier : AchievementTier) (now : Timestamp)
      (unblocked : automatic = true → entitlement.autoGrantBlocked = false)
      (higher : ∀ active ∈ entitlement.activeTier, active.rank < tier.rank)
      (action : event.action =
          if entitlement.activeTier.isSome then .upgrade else .grant)
      (toTier : event.toTier = some tier) :
      Entry automatic entitlement event (grantedRow entitlement tier now)
  | revoked (now : Timestamp) (manual : automatic = false)
      (action : event.action = .revoke)
      (toTier : event.toTier = none) :
      Entry automatic entitlement event (revokedRow entitlement now)
  | disputed (now : Timestamp) (action : event.action = .evidenceDisputed)
      (toTier : event.toTier = entitlement.activeTier) :
      Entry automatic entitlement event (disputedRow entitlement now)

/-- One write to the entitlements and their events. -/
inductive Write (automatic : Bool) (db next : Db) : Prop where
  | elsewhere (serial : db.serial ≤ next.serial)
      (achievements : next.achievements = db.achievements)
      (events : next.events = db.events)
  | created (userId definitionId : Pk)
      (absent : db.achievement? userId definitionId = none)
      (serial : next.serial = db.serial + 1)
      (achievements : next.achievements =
          db.achievements ++ [newAchievement db.serial userId definitionId])
      (events : next.events = db.events)
  | recorded (entitlement row : UserAchievement) (event : AchievementEvent)
      (member : entitlement ∈ db.achievements)
      (about : event.entitlementId = entitlement.pk)
      (fromTier : event.fromTier = entitlement.activeTier)
      (entry : Entry automatic entitlement event row)
      (serial : db.serial ≤ next.serial)
      (achievements : next.achievements =
          Rows.modify UserAchievement.pk entitlement.pk (fun _ => row)
            db.achievements)
      (events : next.events = db.events ++ [event])

/-- A sequence of writes. -/
def Writes (automatic : Bool) : Db → Db → Prop :=
  Relation.ReflTransGen (Write automatic)

variable {automatic : Bool} {db next : Db} {entitlement row : UserAchievement}
  {event : AchievementEvent}

namespace Writes

theorem refl : Writes automatic db db :=
  Relation.ReflTransGen.refl

theorem single (write : Write automatic db next) : Writes automatic db next :=
  Relation.ReflTransGen.single write

theorem trans {middle : Db} (early : Writes automatic db middle)
    (late : Writes automatic middle next) :
    Writes automatic db next :=
  Relation.ReflTransGen.trans early late

theorem elsewhere (serial : db.serial ≤ next.serial)
    (achievements : next.achievements = db.achievements)
    (events : next.events = db.events) :
    Writes automatic db next :=
  single (.elsewhere serial achievements events)

theorem invariant (holds : Db → Prop)
    (kept : ∀ db next, Write automatic db next → holds db → holds next)
    (writes : Writes automatic db next) (initially : holds db) :
    holds next := by
  induction writes with
  | refl => exact initially
  | tail _ write inductionHypothesis => exact kept _ _ write inductionHypothesis

end Writes

/-- The entitlements carry different primary keys, all handed out before. -/
structure Keyed (db : Db) : Prop where
  unique : (db.achievements.map UserAchievement.pk).Nodup
  below : ∀ row ∈ db.achievements, row.pk < db.serial

namespace Entry

theorem identity (entry : Entry automatic entitlement event row) :
    row.pk = entitlement.pk ∧ row.userId = entitlement.userId ∧
      row.definitionId = entitlement.definitionId := by
  cases entry <;> exact ⟨rfl, rfl, rfl⟩

end Entry

namespace Write

/-- A write keeps the keys of every table unique. -/
theorem keyed (write : Write automatic db next) (keyed : Keyed db) :
    Keyed next := by
  cases write with
  | elsewhere serial achievements _ =>
      refine ⟨achievements ▸ keyed.unique, ?_⟩
      intro row member
      rw [achievements] at member
      exact Nat.lt_of_lt_of_le (keyed.below row member) serial
  | created userId definitionId _ serial achievements _ =>
      refine ⟨?_, ?_⟩
      · rw [achievements]
        exact Rows.nodup_append_new keyed.unique fun row member =>
          Nat.ne_of_lt (keyed.below row member)
      · intro row member
        rw [achievements] at member
        rw [serial]
        rcases List.mem_append.mp member with old | new
        · exact Nat.lt_succ_of_lt (keyed.below row old)
        · rw [List.mem_singleton.mp new]
          exact Nat.lt_succ_self _
  | recorded entitlement row event _ _ _ entry serial achievements _ =>
      have samePk := entry.identity.1
      refine ⟨?_, ?_⟩
      · rw [achievements,
          Rows.map_modify fun _ _ same => samePk.trans same.symm]
        exact keyed.unique
      · intro version member
        rw [achievements] at member
        obtain ⟨old, oldMember, ⟨same, rfl⟩ | ⟨_, rfl⟩⟩ :=
          Rows.mem_modify.mp member
        · rw [samePk, ← same]
          exact Nat.lt_of_lt_of_le (keyed.below old oldMember) serial
        · exact Nat.lt_of_lt_of_le (keyed.below version oldMember) serial

end Write

/-! ## The services of grants -/

namespace Grants

theorem getOrCreate_writes
    (automatic : Bool) (db : Db) (userId definitionId : Pk) :
    Writes automatic db (getOrCreate db userId definitionId).1 ∧
      (getOrCreate db userId definitionId).2 ∈
        (getOrCreate db userId definitionId).1.achievements := by
  unfold getOrCreate
  split
  · rename_i entitlement found
    exact ⟨.refl, List.mem_of_find?_eq_some found⟩
  · rename_i absent
    exact ⟨.single (.created userId definitionId absent rfl rfl rfl),
        List.mem_append_right _ (List.mem_singleton_self _)⟩

variable {actor : Option Actor} {key requestDigest : Digest} {now : Timestamp}
  {reply : Reply} {tier : AchievementTier} {request : DisputeRequest}

theorem insertEvent_ok
    (accepted : insertEvent db entitlement actor event = .ok next) :
    next =
      { db with
        serial := db.serial + 1
        events := db.events ++ [event] } := by
  obtain ⟨_, _, accepted⟩ := bind_ok.mp accepted
  obtain ⟨_, _, accepted⟩ := bind_ok.mp accepted
  exact (Except.ok.inj accepted).symm

theorem insertEvent_writes
    {recorded : Db} (member : entitlement ∈ db.achievements)
    (about : event.entitlementId = entitlement.pk)
    (fromTier : event.fromTier = entitlement.activeTier)
    (entry : Entry automatic entitlement event row)
    (accepted : insertEvent db entitlement actor event = .ok recorded) :
    Writes automatic db (save recorded row) := by
  have shape := insertEvent_ok accepted
  subst shape
  refine .single (.recorded entitlement row event member about fromTier
    entry (Nat.le_succ _) ?_ rfl)
  simp only [save, entry.identity.1]

theorem enqueue_writes (db : Db) (userId : Pk) (event : AchievementEvent) :
    Writes automatic db (enqueue db userId event) := by
  unfold enqueue
  split
  · exact .refl
  · split
    · exact .elsewhere (Nat.le_refl _) rfl rfl
    · exact .refl

theorem remember_writes
    {entitlementId : Pk} {outcome : Outcome} {eventId : Option Pk} (remembered :
      (Except.ok
        (remember db key requestDigest entitlementId outcome eventId now) :
        Except Failure (Db × Reply)) = .ok (next, reply)) :
    Writes automatic db next := by
  cases remembered
  exact .elsewhere (Nat.le_refl _) rfl rfl

theorem higher_of_isNoOp (rises : ¬ isNoOp entitlement tier = true) :
    ∀ active ∈ entitlement.activeTier, active.rank < tier.rank := by
  intro active isActive
  have holds : entitlement.activeTier = some active := isActive
  simp only [isNoOp, holds, Option.any_some, decide_eq_true_eq] at rises
  exact Nat.lt_of_not_le rises

theorem grantNew_writes
    {request : GrantRequest} {occurredAt : Timestamp} (accepted :
      grantNew db request tier key requestDigest occurredAt now =
        .ok (next, reply)) :
    Writes (!request.isManual) db next := by
  have created := getOrCreate_writes (!request.isManual) db request.userId
      request.definitionId
  unfold grantNew at accepted
  generalize getOrCreate db request.userId request.definitionId = found
    at accepted created
  obtain ⟨opened, entitlement⟩ := found
  obtain ⟨writes, member⟩ := created
  obtain ⟨_, _, accepted⟩ := bind_ok.mp accepted
  refine writes.trans ?_
  split at accepted
  · exact remember_writes accepted
  rename_i unblocked
  split at accepted
  · exact remember_writes accepted
  rename_i rises
  obtain ⟨recorded, inserted, accepted⟩ := bind_ok.mp accepted
  have grants : Entry (!request.isManual) entitlement
        (grantEvent opened entitlement request tier key occurredAt now)
        (grantedRow entitlement tier now) := by
    refine .granted tier now ?_ (higher_of_isNoOp rises) rfl rfl
    intro automatic
    simp only [Bool.not_eq_true', not_and,
      Bool.not_eq_true] at automatic unblocked
    exact unblocked automatic
  have entered := insertEvent_writes member rfl rfl grants inserted
  exact (entered.trans (enqueue_writes _ _ _)).trans (remember_writes accepted)

/-- A grant that was repeated changes nothing, every other one is new. -/
theorem grant_cases {request : GrantRequest}
    (accepted : grant db request now = .ok (next, reply)) :
    next = db ∨ ∃ tier key requestDigest occurredAt,
      grantNew db request tier key requestDigest occurredAt now =
        .ok (next, reply) := by
  unfold grant at accepted
  obtain ⟨occurredAt, _, accepted⟩ := bind_ok.mp accepted
  obtain ⟨_, _, accepted⟩ := bind_ok.mp accepted
  obtain ⟨tier, _, accepted⟩ := bind_ok.mp accepted
  obtain ⟨key, _, accepted⟩ := bind_ok.mp accepted
  obtain ⟨receipt, _, accepted⟩ := bind_ok.mp accepted
  split at accepted
  · split at accepted <;> cases accepted <;> exact .inl rfl
  · exact .inr ⟨tier, key, _, occurredAt, accepted⟩

theorem grant_writes {request : GrantRequest}
    (accepted : grant db request now = .ok (next, reply)) :
    Writes (!request.isManual) db next := by
  rcases grant_cases accepted with rfl | ⟨_, _, _, _, accepted⟩
  · exact .refl
  · exact grantNew_writes accepted

theorem revokeNew_writes
    {definition : AchievementDefinition} {request : RevokeRequest}
    {actor : Actor} (accepted :
      revokeNew db definition request actor key requestDigest now =
        .ok (next, reply)) :
    Writes false db next := by
  unfold revokeNew at accepted
  obtain ⟨entitlement, found, accepted⟩ := bind_ok.mp accepted
  have member : entitlement ∈ db.achievements :=
    List.mem_of_find?_eq_some (required_ok.mp found)
  obtain ⟨_, _, accepted⟩ := bind_ok.mp accepted
  split at accepted
  · exact remember_writes accepted
  obtain ⟨proof, _, accepted⟩ := bind_ok.mp accepted
  obtain ⟨recorded, inserted, accepted⟩ := bind_ok.mp accepted
  have entered :=
    insertEvent_writes member rfl rfl (.revoked now rfl rfl rfl) inserted
  exact entered.trans (remember_writes accepted)

theorem revoke_writes {request : RevokeRequest}
    (accepted : revoke db request now = .ok (next, reply)) :
    Writes false db next := by
  unfold revoke at accepted
  obtain ⟨actor, _, accepted⟩ := bind_ok.mp accepted
  obtain ⟨_, _, accepted⟩ := bind_ok.mp accepted
  obtain ⟨definition, _, accepted⟩ := bind_ok.mp accepted
  obtain ⟨key, _, accepted⟩ := bind_ok.mp accepted
  obtain ⟨receipt, _, accepted⟩ := bind_ok.mp accepted
  split at accepted
  · cases accepted
    exact .refl
  · exact revokeNew_writes accepted

theorem disputeOne_writes (member : entitlement ∈ db.achievements)
    (accepted : disputeOne request now db entitlement = .ok next) :
    Writes automatic db next ∧ ∀ other ∈ db.achievements,
        other.pk ≠ entitlement.pk → other ∈ next.achievements := by
  unfold disputeOne at accepted
  split at accepted
  · cases accepted
    exact ⟨.refl, fun _ otherMember _ => otherMember⟩
  · obtain ⟨recorded, inserted, accepted⟩ := bind_ok.mp accepted
    cases accepted
    refine
      ⟨insertEvent_writes member rfl rfl (.disputed now rfl rfl) inserted, ?_⟩
    intro other otherMember different
    rw [insertEvent_ok inserted]
    exact Rows.mem_modify.mpr ⟨other, otherMember, .inr ⟨different, rfl⟩⟩

theorem disputeAll_writes {entitlements : List UserAchievement}
    (unique : (entitlements.map UserAchievement.pk).Nodup)
    (members : ∀ row ∈ entitlements, row ∈ db.achievements)
    (accepted : entitlements.foldlM (disputeOne request now) db = .ok next) :
    Writes automatic db next := by
  induction entitlements generalizing db with
  | nil =>
      cases accepted
      exact .refl
  | cons entitlement rest inductionHypothesis =>
      rw [List.foldlM_cons] at accepted
      obtain ⟨middle, one, accepted⟩ := bind_ok.mp accepted
      obtain ⟨writes, others⟩ :=
        disputeOne_writes (members entitlement List.mem_cons_self) one
      rw [List.map_cons, List.nodup_cons] at unique
      refine writes.trans (inductionHypothesis unique.2 ?_ accepted)
      intro row member
      refine others row (members row (List.mem_cons_of_mem _ member)) ?_
      intro same
      exact unique.1 (same ▸ List.mem_map_of_mem member)

theorem flagDisputed_writes
    (keyed : Keyed db) (accepted : flagDisputed db request now = .ok next) :
    Writes automatic db next := by
  obtain ⟨_, _, accepted⟩ := bind_ok.mp accepted
  refine disputeAll_writes ?_ ?_ accepted
  · exact keyed.unique.sublist (List.filter_sublist.map _)
  · exact fun row member => List.mem_of_mem_filter member

end Grants

namespace Writes

/-- Writes keep the keys of every table unique. -/
theorem keyed (writes : Writes automatic db next) (keyed : Keyed db) :
    Keyed next :=
  writes.invariant Keyed (fun _ _ write held => write.keyed held) keyed

theorem byHand (writes : Writes automatic db next) : Writes false db next := by
  refine Relation.ReflTransGen.mono ?_ _ _ writes
  intro before after write
  cases write with
  | elsewhere serial achievements events =>
      exact .elsewhere serial achievements events
  | created userId definitionId absent serial achievements events =>
      exact .created userId definitionId absent serial achievements events
  | recorded entitlement row event member about fromTier entry serial
      achievements events =>
      refine .recorded entitlement row event member about fromTier ?_ serial
        achievements events
      cases entry with
      | granted tier now _ higher action toTier =>
          exact .granted tier now nofun higher action toTier
      | revoked now _ action toTier => exact .revoked now rfl action toTier
      | disputed now action toTier => exact .disputed now action toTier

end Writes

/-! ## Calls -/

theorem act_writes (act : Act automatic db next) (keyed : Keyed db) :
    Writes automatic db next := by
  cases act with
  | granted request now reply permitted accepted =>
      have writes := grant_writes accepted
      cases automatic with
      | false => exact writes.byHand
      | true =>
          rw [permitted rfl] at writes
          exact writes
  | revoked request now reply manual accepted =>
      rw [manual]
      exact revoke_writes accepted
  | disputed request now accepted => exact flagDisputed_writes keyed accepted
  | beside ground serial achievements events operations =>
      exact .elsewhere serial achievements events

theorem acts_writes (acts : Acts automatic db next) (keyed : Keyed db) :
    Writes automatic db next := by
  induction acts with
  | refl => exact .refl
  | tail _ act inductionHypothesis =>
      exact inductionHypothesis.trans
        (act_writes act (inductionHypothesis.keyed keyed))

theorem call_writes (call : Call) (keyed : Keyed db) :
    Writes call.isAutomatic db (db.call call).1 :=
  acts_writes (call_acts db call) keyed

end TicketSandbox.Achievements
