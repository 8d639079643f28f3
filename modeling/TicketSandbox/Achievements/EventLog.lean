import TicketSandbox.Achievements.Writes
import TicketSandbox.Library.Projections

namespace TicketSandbox.Achievements

/-!
# Entitlements as folds of their events

An entitlement is the summary of its event log.  The summary is defined on its
own, from the events alone, and every write keeps the stored row equal to it.
-/

open Runs
open Sandbox (Pk Timestamp Text)
open Grants

/-- What an entitlement says, beside its identity and its dates. -/
structure Standing where
  activeTier : Option AchievementTier
  revision : Nat
  autoGrantBlocked : Bool
  evidenceDisputed : Bool

/-- The standing of a stored entitlement. -/
def UserAchievement.standing (row : UserAchievement) : Standing where
  activeTier := row.activeTier
  revision := row.revision
  autoGrantBlocked := row.autoGrantBlocked
  evidenceDisputed := row.evidenceDisputed

/-- What an event does to a standing. -/
def Standing.apply (standing : Standing) (event : AchievementEvent) :
    Standing where
  activeTier :=
    if event.action = .evidenceDisputed then standing.activeTier
    else event.toTier
  revision := standing.revision + 1
  autoGrantBlocked :=
    standing.autoGrantBlocked || decide (event.action = .revoke)
  evidenceDisputed :=
    standing.evidenceDisputed || decide (event.action = .evidenceDisputed)

/-- The event starts from the active tier, and moves it as its action says. -/
structure Standing.Accepts
    (standing : Standing) (event : AchievementEvent) : Prop where
  fromTier : event.fromTier = standing.activeTier
  rises : event.action = .upgrade → ∃ old new,
      event.fromTier = some old ∧ event.toTier = some new ∧ old.rank < new.rank
  revokes : event.action = .revoke → event.toTier = none

/-- How events make up a standing. -/
def standings : Projections.Projector AchievementEvent Standing where
  initial :=
    { activeTier := none
      revision := 0
      autoGrantBlocked := false
      evidenceDisputed := false }
  apply := Standing.apply
  Accepts := Standing.Accepts

/-- The events that move the active tier. -/
def movesTier (event : AchievementEvent) : Bool :=
  decide (event.action ≠ .evidenceDisputed)

/-- The tier that the last event other than a dispute left. -/
def lastTier (log : List AchievementEvent) : Option AchievementTier :=
  (log.filter movesTier).getLast?.bind AchievementEvent.toTier

/-- A log explains a standing. -/
structure FoldsTo
    (log : List AchievementEvent) (standing : Standing) : Prop where
  revision : standing.revision = log.length
  activeTier : standing.activeTier = lastTier log
  fromTiers : ∀ early event late, log = early ++ event :: late →
      event.fromTier = lastTier early
  upgrades : ∀ event ∈ log, event.action = .upgrade → ∃ old new,
        event.fromTier = some old ∧ event.toTier = some new ∧
          old.rank < new.rank
  blocked :
    standing.autoGrantBlocked = true ↔ ∃ event ∈ log, event.action = .revoke
  disputed : standing.evidenceDisputed = true ↔
      ∃ event ∈ log, event.action = .evidenceDisputed

theorem lastTier_append
    (log : List AchievementEvent) (event : AchievementEvent) :
    lastTier (log ++ [event]) =
      if event.action = .evidenceDisputed then
        lastTier log
      else
        event.toTier := by
  by_cases disputes : event.action = .evidenceDisputed
  · simp [lastTier, movesTier, disputes]
  · simp [lastTier, movesTier, disputes]

variable {log : List AchievementEvent} {event : AchievementEvent}

namespace FoldsTo

theorem nil : FoldsTo [] standings.initial where
  revision := rfl
  activeTier := rfl
  fromTiers := by simp
  upgrades := by simp
  blocked := by simp [standings]
  disputed := by simp [standings]

theorem append {standing : Standing} (folds : FoldsTo log standing)
    (accepts : standing.Accepts event) :
    FoldsTo (log ++ [event]) (standing.apply event) where
  revision := by
    simp [Standing.apply, folds.revision]
  activeTier := by
    rw [lastTier_append, ← folds.activeTier]
    rfl
  fromTiers := by
    intro early earlier late split
    rcases List.eq_nil_or_concat late with rfl | ⟨rest, last, rfl⟩
    · obtain ⟨rfl, same⟩ := List.append_inj' split rfl
      rw [← List.singleton_inj.mp same, accepts.fromTier, folds.activeTier]
    · have moved : log ++ [event] = (early ++ earlier :: rest) ++ [last] := by
        simpa using split
      obtain ⟨rfl, _⟩ := List.append_inj' moved rfl
      exact folds.fromTiers early earlier rest rfl
  upgrades := by
    intro other member isUpgrade
    rcases List.mem_append.mp member with old | new
    · exact folds.upgrades other old isUpgrade
    · obtain rfl := List.mem_singleton.mp new
      exact accepts.rises isUpgrade
  blocked := by
    simp [Standing.apply, folds.blocked, or_and_right, exists_or]
  disputed := by
    simp [Standing.apply, folds.disputed, or_and_right, exists_or]

end FoldsTo

theorem foldsTo_of_lawful
    (lawful : standings.Lawful log) : FoldsTo log (standings.fold log) :=
  lawful.induct FoldsTo .nil fun _ _ folds accepts => folds.append accepts

/-- Every entitlement is the fold of its lawful log. -/
structure Folded (db : Db) : Prop where
  keyed : Keyed db
  below : ∀ event ∈ db.events, event.entitlementId < db.serial
  lawful : ∀ row ∈ db.achievements, standings.Lawful (db.eventsOf row.pk)
  folds :
    ∀ row ∈ db.achievements, row.standing = standings.fold (db.eventsOf row.pk)

namespace Entry

variable {automatic : Bool} {entitlement row : UserAchievement}

theorem standing (entry : Entry automatic entitlement event row) :
    row.standing = entitlement.standing.apply event := by
  cases entry with
  | granted tier now _ _ action toTier =>
      by_cases upgrades : entitlement.activeTier.isSome = true <;>
        simp [UserAchievement.standing, Standing.apply, grantedRow, action,
          toTier, upgrades]
  | revoked now _ action toTier =>
      simp [UserAchievement.standing, Standing.apply, revokedRow, action,
        toTier]
  | disputed now action _ =>
      simp [UserAchievement.standing, Standing.apply, disputedRow, action]

theorem accepts (entry : Entry automatic entitlement event row)
    (fromTier : event.fromTier = entitlement.activeTier) :
    entitlement.standing.Accepts event := by
  refine ⟨fromTier, ?_, ?_⟩
  · intro isUpgrade
    cases entry with
    | granted tier now _ higher action toTier =>
        cases active : entitlement.activeTier with
        | none => simp [active, isUpgrade] at action
        | some old =>
            exact ⟨old, tier, fromTier.trans active, toTier, higher old active⟩
    | revoked now _ action _ => simp [isUpgrade] at action
    | disputed now action _ => simp [isUpgrade] at action
  · intro isRevoke
    cases entry with
    | granted tier now _ _ action _ =>
        rw [isRevoke] at action
        split at action <;> simp at action
    | revoked now _ _ toTier => exact toTier
    | disputed now action _ => simp [isRevoke] at action

end Entry

namespace Folded

/-- The empty tables are the fold of their empty logs. -/
theorem empty (catalog : Catalog) (hasUser : Pk → Bool)
    (digest : Digested → Digest) (boundary : Option Timestamp) :
    Folded (Db.empty catalog hasUser digest boundary) where
  keyed := ⟨by simp [Db.empty], by simp [Db.empty]⟩
  below := by simp [Db.empty]
  lawful := by simp [Db.empty]
  folds := by simp [Db.empty]

/-- A write keeps every entitlement the fold of its events. -/
theorem write {automatic : Bool} {db next : Db} (folded : Folded db)
    (write : Write automatic db next) :
    Folded next := by
  have keyed := write.keyed folded.keyed
  cases write with
  | elsewhere serial achievements events =>
      have sameLog (pk : Pk) : next.eventsOf pk = db.eventsOf pk := by
        rw [Db.eventsOf, Db.eventsOf, events]
      refine ⟨keyed, ?_, ?_, ?_⟩
      · intro event member
        rw [events] at member
        exact Nat.lt_of_lt_of_le (folded.below event member) serial
      · intro row member
        rw [achievements] at member
        rw [sameLog]
        exact folded.lawful row member
      · intro row member
        rw [achievements] at member
        rw [sameLog]
        exact folded.folds row member
  | created userId definitionId _ serial achievements events =>
      have sameLog (pk : Pk) : next.eventsOf pk = db.eventsOf pk := by
        rw [Db.eventsOf, Db.eventsOf, events]
      have noEvents : db.eventsOf db.serial = [] := by
        refine List.filter_eq_nil_iff.mpr ?_
        intro event member same
        have before := folded.below event member
        rw [of_decide_eq_true same] at before
        exact Nat.lt_irrefl _ before
      refine ⟨keyed, ?_, ?_, ?_⟩
      · intro event member
        rw [events] at member
        rw [serial]
        exact Nat.lt_succ_of_lt (folded.below event member)
      · intro row member
        rw [achievements] at member
        rw [sameLog]
        rcases List.mem_append.mp member with old | new
        · exact folded.lawful row old
        · rw [List.mem_singleton.mp new]
          simp only [newAchievement, noEvents]
          exact .nil
      · intro row member
        rw [achievements] at member
        rw [sameLog]
        rcases List.mem_append.mp member with old | new
        · exact folded.folds row old
        · rw [List.mem_singleton.mp new]
          simp only [newAchievement, noEvents]
          rfl
  | recorded entitlement row event member about fromTier entry serial
      achievements events =>
      have samePk := entry.identity.1
      have ownLog : next.eventsOf entitlement.pk =
            db.eventsOf entitlement.pk ++ [event] := by
        simp [Db.eventsOf, events, about]
      have otherLog {pk : Pk} (different : pk ≠ entitlement.pk) :
          next.eventsOf pk = db.eventsOf pk := by
        simp [Db.eventsOf, events, about, different.symm]
      have accepts := entry.accepts fromTier
      have summary := folded.folds entitlement member
      have versions {version : UserAchievement}
          (versionMember : version ∈ next.achievements) :
          version = row ∨
            version ∈ db.achievements ∧ version.pk ≠ entitlement.pk := by
        rw [achievements] at versionMember
        obtain ⟨old, oldMember, ⟨_, rfl⟩ | ⟨different, rfl⟩⟩ :=
          Rows.mem_modify.mp versionMember
        · exact .inl rfl
        · exact .inr ⟨oldMember, different⟩
      refine ⟨keyed, ?_, ?_, ?_⟩
      · intro other otherMember
        rw [events] at otherMember
        rcases List.mem_append.mp otherMember with old | new
        · exact Nat.lt_of_lt_of_le (folded.below other old) serial
        · rw [List.mem_singleton.mp new, about]
          exact Nat.lt_of_lt_of_le (folded.keyed.below entitlement member)
            serial
      · intro version versionMember
        rcases versions versionMember with rfl | ⟨old, different⟩
        · rw [samePk, ownLog, Projections.Projector.Lawful.append_iff,
            ← summary]
          exact ⟨folded.lawful entitlement member, accepts⟩
        · rw [otherLog different]
          exact folded.lawful version old
      · intro version versionMember
        rcases versions versionMember with rfl | ⟨old, different⟩
        · rw [samePk, ownLog, Projections.Projector.fold_append, ← summary]
          exact entry.standing
        · rw [otherLog different]
          exact folded.folds version old

theorem call
    {db : Db} (folded : Folded db) (call : Call) : Folded (db.call call).1 :=
  (call_writes call folded.keyed).invariant Folded
    (fun _ _ write held => held.write write) folded

theorem run {permitted : Db → Call → Prop} {first last : Db} {calls : List Call}
    (folded : Folded first) (run : Run Db.step? permitted first calls last) :
    Folded last := by
  refine run.invariant Folded ?_ folded
  intro db call next _ stepped held
  cases stepped
  exact held.call call

end Folded

theorem call_raised {db : Db} {call : Call} {failure : Failure}
    (raised : (db.call call).2 = some failure) :
    (db.call call).1.achievements = db.achievements ∧
      (db.call call).1.events = db.events ∧
      (db.call call).1.operations = db.operations := by
  have rolledBack {α : Type} {result : Except Failure (Db × α)}
      (failed : (atomic db result).2 = some failure) :
      (atomic db result).1 = db := by
    cases result with
    | error _ => rfl
    | ok _ => simp [atomic] at failed
  cases call with
  | processSourceEvent world eventId now =>
      simp only [Db.call, Events.processSourceEvent] at raised ⊢
      cases processed : Events.process db world eventId now with
      | error _ => exact ⟨rfl, rfl, rfl⟩
      | ok _ => simp [processed] at raised
  | _ =>
      rw [Db.call, rolledBack raised]
      exact ⟨rfl, rfl, rfl⟩

/--
In every state that calls can reach, every entitlement is explained by its
event log, and a call that raises changes neither.
-/
theorem reachable_foldsTo
    (catalog : Catalog) (hasUser : Pk → Bool) (digest : Digested → Digest)
    (boundary : Option Timestamp) {calls : List Call} {last : Db} (run :
      Run Db.step? anything
        (Db.empty catalog hasUser digest boundary) calls last) :
    (∀ row ∈ last.achievements, FoldsTo (last.eventsOf row.pk) row.standing) ∧
      ∀ call failure, (last.call call).2 = some failure →
        (last.call call).1.achievements = last.achievements ∧
          (last.call call).1.events = last.events ∧
          (last.call call).1.operations = last.operations := by
  have folded := (Folded.empty catalog hasUser digest boundary).run run
  refine ⟨?_, fun _ _ raised => call_raised raised⟩
  intro row member
  rw [folded.folds row member]
  exact foldsTo_of_lawful (folded.lawful row member)

/-- The seeded catalog with one user and a hash that keeps keys apart. -/
def Db.seeded : Db :=
  Db.empty Catalog.seedCatalog (fun userId => userId == 5) (fun value =>
      match value with
      | .operation _ _ action operationId =>
          4 * operationId.length + if action = "grant" then 0 else 1
      | .dispute _ entitlement => 4 * entitlement + 2
      | _ => 0)
    none

/-- An automatic grant of a speed tier, proven by a metric. -/
def speedGrant (tierCode : String) (operationId : Text) : GrantRequest where
  userId := 5
  definitionId := 4
  tierCode := tierCode
  evidence := { metricId := some 7 }
  occurredAt := .aware 0
  sourceType := "weekly_metric"
  sourceRef := eventRef 1
  operationId := operationId

/-- A staff member revokes the speed award. -/
def speedRevoke : RevokeRequest where
  userId := 5
  definitionId := 4
  actor := some { pk := 9, isAuthenticated := true, isStaff := true }
  reason := ['r']
  operationId := ['r']

/-- A grant, an upgrade, a dispute of the proof and a revocation. -/
def grantedAndRevoked : List Call :=
  [.grant (speedGrant "bronze" ['a']) 1,
    .grant (speedGrant "gold" ['a', 'b']) 2,
    .flagDisputed { userId := 5, metricId := some 7, source := .event 1 } 3,
    .revoke speedRevoke 4]

theorem reachable_foldsTo_revoked :
    ∃ last : Db, ∃ row : UserAchievement,
      last.achievements = [row] ∧ row.revision = 4 ∧
        FoldsTo (last.eventsOf row.pk) row.standing ∧
        ∀ call failure, (last.call call).2 = some failure →
          (last.call call).1.achievements = last.achievements ∧
            (last.call call).1.events = last.events ∧
            (last.call call).1.operations = last.operations := by
  have run : Run Db.step? anything Db.seeded grantedAndRevoked
        (after Db.step? Db.seeded grantedAndRevoked) :=
    run_after (fun _ _ _ => trivial) rfl
  have reached := reachable_foldsTo _ _ _ _ run
  exact ⟨_, _, rfl, by decide, reached.1 _ List.mem_cons_self, reached.2⟩

end TicketSandbox.Achievements
