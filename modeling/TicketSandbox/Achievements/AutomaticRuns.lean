import TicketSandbox.Achievements.EventLog

namespace TicketSandbox.Achievements

/-!
# Runs of automatic calls

Automatic calls only raise a tier, and they leave alone whatever staff has
revoked, whichever operations they repeat and in whichever order they come.
-/

open Runs
open Sandbox (Pk Timestamp Text)
open Grants

namespace Db

/-- The active tier of the user for the definition. -/
def activeTier? (db : Db) (userId definitionId : Pk) : Option AchievementTier :=
  (db.achievement? userId definitionId).bind UserAchievement.activeTier

/-- The rank of the active tier, and zero without one. -/
def activeRank (db : Db) (userId definitionId : Pk) : Nat :=
  (db.activeTier? userId definitionId).elim 0 AchievementTier.rank

/-- Staff has revoked the entitlement at some time. -/
def WasRevoked (db : Db) (userId definitionId : Pk) : Prop :=
  ∃ row, db.achievement? userId definitionId = some row ∧
      ∃ event ∈ db.eventsOf row.pk, event.action = .revoke

end Db

/-- What automatic calls do to one entitlement. -/
structure Advances (first last : Db) (userId definitionId : Pk) : Prop where
  ranks :
    first.activeRank userId definitionId ≤ last.activeRank userId definitionId
  blocked : ∀ row, first.achievement? userId definitionId = some row →
      row.autoGrantBlocked = true →
      ∃ later, last.achievement? userId definitionId = some later ∧
          later.autoGrantBlocked = true ∧
          later.activeTier = row.activeTier

variable {first last : Db} {calls : List Call}

namespace Advances

variable {userId definitionId : Pk}

theorem ofSame (same : last.achievement? userId definitionId =
        first.achievement? userId definitionId) :
    Advances first last userId definitionId where
  ranks := by
    rw [Db.activeRank, Db.activeRank, Db.activeTier?, Db.activeTier?, same]
  blocked := fun row found isBlocked => ⟨row, same.trans found, isBlocked, rfl⟩

theorem trans {middle : Db} (early : Advances first middle userId definitionId)
    (late : Advances middle last userId definitionId) :
    Advances first last userId definitionId where
  ranks := Nat.le_trans early.ranks late.ranks
  blocked := by
    intro row found isBlocked
    obtain ⟨version, versionFound, stillBlocked, sameTier⟩ :=
      early.blocked row found isBlocked
    obtain ⟨later, laterFound, laterBlocked, laterTier⟩ :=
      late.blocked version versionFound stillBlocked
    exact ⟨later, laterFound, laterBlocked, laterTier.trans sameTier⟩

end Advances

theorem Entry.advances {entitlement row : UserAchievement}
    {event : AchievementEvent} (entry : Entry true entitlement event row) :
    entitlement.activeTier.elim 0 AchievementTier.rank ≤
        row.activeTier.elim 0 AchievementTier.rank ∧
      (entitlement.autoGrantBlocked = true → row.autoGrantBlocked = true ∧
          row.activeTier = entitlement.activeTier) := by
  cases entry with
  | granted tier now unblocked higher _ _ =>
      refine ⟨?_, ?_⟩
      · cases active : entitlement.activeTier with
        | none => exact Nat.zero_le _
        | some old => exact Nat.le_of_lt (higher old active)
      · intro isBlocked
        rw [unblocked rfl] at isBlocked
        contradiction
  | revoked _ manual _ _ => contradiction
  | disputed now _ _ => exact ⟨Nat.le_refl _, fun isBlocked => ⟨isBlocked, rfl⟩⟩

/-- An automatic write lowers no award. -/
theorem Write.advances {db next : Db} (keyed : Keyed db)
    (write : Write true db next) (userId definitionId : Pk) :
    Advances db next userId definitionId := by
  cases write with
  | elsewhere _ achievements _ =>
      refine .ofSame ?_
      rw [Db.achievement?, Db.achievement?, achievements]
  | created owner definition _ _ achievements _ =>
      cases found : db.achievement? userId definitionId with
      | some row =>
          refine .ofSame ?_
          rw [found, Db.achievement?, achievements, List.find?_append]
          rw [Db.achievement?] at found
          rw [found, Option.some_or]
      | none =>
          refine ⟨?_, ?_⟩
          · rw [Db.activeRank, Db.activeTier?, found]
            exact Nat.zero_le _
          · intro row isRow
            rw [found] at isRow
            contradiction
  | recorded entitlement row event member _ _ entry _ achievements _ =>
      obtain ⟨samePk, sameUser, sameDefinition⟩ := entry.identity
      have isEntitlement {old : UserAchievement}
          (oldMember : old ∈ db.achievements)
          (same : old.pk = entitlement.pk) :
          old = entitlement :=
        Rows.eq_of_key keyed.unique oldMember member same
      have finds : next.achievement? userId definitionId =
            (db.achievement? userId definitionId).map fun old =>
              if old.pk = entitlement.pk then row else old := by
        rw [Db.achievement?, achievements]
        refine Rows.find?_modify ?_
        intro old oldMember same
        rw [isEntitlement oldMember same, sameUser, sameDefinition]
      obtain ⟨ranks, keeps⟩ := entry.advances
      cases found : db.achievement? userId definitionId with
      | none =>
          refine ⟨?_, ?_⟩
          · rw [Db.activeRank, Db.activeTier?, found]
            exact Nat.zero_le _
          · intro old isOld
            rw [found] at isOld
            contradiction
      | some old =>
          have oldMember : old ∈ db.achievements :=
            List.mem_of_find?_eq_some found
          by_cases same : old.pk = entitlement.pk
          · obtain rfl := isEntitlement oldMember same
            rw [found, Option.map_some, if_pos rfl] at finds
            refine ⟨?_, ?_⟩
            · rw [Db.activeRank, Db.activeRank, Db.activeTier?,
                Db.activeTier?, found, finds]
              exact ranks
            · intro version isVersion isBlocked
              rw [found] at isVersion
              obtain rfl := Option.some.inj isVersion
              exact ⟨row, finds, keeps isBlocked⟩
          · refine .ofSame ?_
            rw [finds, found, Option.map_some, if_neg same]

theorem Writes.advances (keyed : Keyed first) (writes : Writes true first last)
    (userId definitionId : Pk) :
    Advances first last userId definitionId := by
  have both : Keyed last ∧ Advances first last userId definitionId :=
    writes.invariant
      (fun db => Keyed db ∧ Advances first db userId definitionId)
      (fun _ _ write held =>
        ⟨write.keyed held.1,
          held.2.trans (write.advances held.1 userId definitionId)⟩)
      ⟨keyed, .ofSame rfl⟩
  exact both.2

/-- The call is automatic. -/
def IsAutomatic (_ : Db) (call : Call) : Prop :=
  call.isAutomatic = true

/-- A run of automatic calls only raises awards. -/
theorem run_advances
    (keyed : Keyed first) (run : Run Db.step? IsAutomatic first calls last)
    (userId definitionId : Pk) :
    Advances first last userId definitionId := by
  have both : Keyed last ∧ Advances first last userId definitionId := by
    refine run.invariant
      (fun db => Keyed db ∧ Advances first db userId definitionId)
      ?_ ⟨keyed, .ofSame rfl⟩
    rintro db call next automatic stepped ⟨held, advances⟩
    cases stepped
    have writes := call_writes call held
    rw [show call.isAutomatic = true from automatic] at writes
    exact ⟨writes.keyed held,
      advances.trans (writes.advances held userId definitionId)⟩
  exact both.2

/--
After any reachable state automatic calls never lower the rank of an active
tier, and they never change the active tier of what staff has revoked.
-/
theorem automatic_keepsTiers
    (catalog : Catalog) (hasUser : Pk → Bool) (digest : Digested → Digest)
    (boundary : Option Timestamp) {earlier automatic : List Call}
    {first last : Db} (reached : Run Db.step? anything
        (Db.empty catalog hasUser digest boundary) earlier first)
    (run : Run Db.step? IsAutomatic first automatic last)
    (userId definitionId : Pk) :
    first.activeRank userId definitionId ≤ last.activeRank userId definitionId ∧
      (first.WasRevoked userId definitionId →
        last.activeTier? userId definitionId =
          first.activeTier? userId definitionId) := by
  have folded := (Folded.empty catalog hasUser digest boundary).run reached
  have advances := run_advances folded.keyed run userId definitionId
  refine ⟨advances.ranks, ?_⟩
  rintro ⟨row, found, revoked⟩
  have member : row ∈ first.achievements := List.mem_of_find?_eq_some found
  have folds := foldsTo_of_lawful (folded.lawful row member)
  rw [← folded.folds row member] at folds
  obtain ⟨later, laterFound, _, sameTier⟩ :=
    advances.blocked row found (folds.blocked.mpr revoked)
  rw [Db.activeTier?, Db.activeTier?, laterFound, found]
  exact sameTier

theorem run_automatic (automatic : ∀ call ∈ calls, call.isAutomatic = true) :
    Run Db.step? IsAutomatic first calls (after Db.step? first calls) := by
  refine run_after (fun _ call member => automatic call member) ?_
  induction calls generalizing first with
  | nil => rfl
  | cons call rest inductionHypothesis =>
      exact inductionHypothesis fun other member =>
        automatic other (List.mem_cons_of_mem _ member)

/-- A new proof, a replay of a recorded grant, and another dispute. -/
def grantsAfterRevoke : List Call :=
  [.grant (speedGrant "platinum" ['a', 'b', 'c']) 5,
    .grant (speedGrant "bronze" ['a']) 6,
    .flagDisputed { userId := 5, metricId := some 7, source := .event 2 } 7]

theorem automatic_keepsTiers_revoked :
    ∃ first last : Db, Run Db.step? IsAutomatic first grantsAfterRevoke last ∧
        first.activeTier? 5 4 = none ∧ last.activeTier? 5 4 = none := by
  have reached : Run Db.step? anything Db.seeded grantedAndRevoked
        (after Db.step? Db.seeded grantedAndRevoked) :=
    run_after (fun _ _ _ => trivial) rfl
  have run : Run Db.step? IsAutomatic
        (after Db.step? Db.seeded grantedAndRevoked)
        grantsAfterRevoke _ :=
    run_automatic (by decide)
  have kept := (automatic_keepsTiers _ _ _ _ reached run 5 4).2
  refine ⟨_, _, run, by decide, (kept ?_).trans (by decide)⟩
  exact ⟨_, rfl, _, List.mem_of_getLast? rfl, by decide⟩

end TicketSandbox.Achievements
